import TypedMarkup.Value

/-!
# Tables that are shared

Settings hold a table itself and no copy, and hand it out so. One table may stand in several places,
and a change in it shows in all of them. An `Item` therefore has the number of a table, and `Tables`
are what is in each. `hold` makes tables of a new value, and `value?` reads the value of an item.
-/

namespace TypedMarkup.Settings

/-- A value as settings hold it. Lists do not change, so that only tables need a number. -/
inductive Item where
  | null
  | bool (b : Bool)
  | int (n : Int)
  | double (x : Double)
  | text (s : String)
  | list (items : List Item)
  | table (id : Nat)
  deriving Repr, Inhabited

/-- All tables that there are, each under its number. -/
abbrev Tables := List (Entries Item)

namespace Tables

/-- The entries of a table. -/
def entries (ts : Tables) (id : Nat) : Entries Item :=
  ts[id]?.getD []

/-- The tables with an entry of one replaced or added. -/
def put (ts : Tables) (id : Nat) (name : String) (x : Item) : Tables :=
  ts.modify id (Entries.put name x)

/-- The tables with an entry of one taken out. -/
def erase (ts : Tables) (id : Nat) (name : String) : Tables :=
  ts.modify id (Entries.erase name)

/-! ## New values -/

mutual

/-- A new value: the item that it is, and the tables with those that it brings. -/
def hold (ts : Tables) : Value → Item × Tables
  | .null => (.null, ts)
  | .bool b => (.bool b, ts)
  | .int n => (.int n, ts)
  | .double x => (.double x, ts)
  | .text s => (.text s, ts)
  | .list vs =>
    let (items, ts) := holdItems ts vs
    (.list items, ts)
  | .table es =>
    let (entries, ts) := holdEntries ts es
    (.table ts.length, ts ++ [entries])

/-- The items of a new list. -/
def holdItems (ts : Tables) : List Value → List Item × Tables
  | [] => ([], ts)
  | v :: vs =>
    let (item, ts) := hold ts v
    let (items, ts) := holdItems ts vs
    (item :: items, ts)

/-- The entries of a new table. -/
def holdEntries (ts : Tables) : List (String × Value) → Entries Item × Tables
  | [] => ([], ts)
  | (name, v) :: rest =>
    let (item, ts) := hold ts v
    let (entries, ts) := holdEntries ts rest
    ((name, item) :: entries, ts)

end

/-! ## Values of items -/

mutual

/-- The value of an item, by the values of tables. -/
def itemValue? (table : Nat → Option Value) : Item → Option Value
  | .null => some .null
  | .bool b => some (.bool b)
  | .int n => some (.int n)
  | .double x => some (.double x)
  | .text s => some (.text s)
  | .list items => (itemValues? table items).map .list
  | .table id => table id

/-- The values of items, by the values of tables. -/
def itemValues? (table : Nat → Option Value) : List Item → Option (List Value)
  | [] => some []
  | x :: xs => do
    let v ← itemValue? table x
    let vs ← itemValues? table xs
    some (v :: vs)

end

/-- The values of entries, by the values of tables. -/
def entryValues? (table : Nat → Option Value) : Entries Item → Option (Entries Value)
  | [] => some []
  | (name, x) :: rest => do
    let v ← itemValue? table x
    let vs ← entryValues? table rest
    some ((name, v) :: vs)

/-- The value of a table that stands in those on the way. One that comes again within itself has no
value of its own, and reads as `again` there. -/
def tableValue? (ts : Tables) (again : Option Value) : (depth : Nat) → (way : List Nat) → Nat →
    Option Value
  | 0, _, _ => again
  | depth + 1, way, id =>
    if id ∈ way then again
    else do
      let entries ← ts[id]?
      let values ← entryValues? (ts.tableValue? again depth (id :: way)) entries
      some (.table values)

/-- The value of an item, unless a table in it comes again within itself. -/
def value? (ts : Tables) (x : Item) : Option Value :=
  itemValue? (ts.tableValue? none (ts.length + 1) []) x

/-- The value of an item with another one wherever a table comes again within itself. -/
def valueWith (ts : Tables) (again : Value) (x : Item) : Value :=
  (itemValue? (ts.tableValue? (some again) (ts.length + 1) []) x).getD again

end Tables

end TypedMarkup.Settings
