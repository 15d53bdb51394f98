import TypedMarkup.Settings.Tables

/-!
# Nested settings

Tables of settings under dotted keys. A key is split at its dots, and each part but the last leads
into a nested table: `get?` follows them, `set` makes the tables that are missing, `remove?` takes
an entry out, and `merge` lays a new table over one.
-/

namespace TypedMarkup.Settings

/-- The parts of a dotted key; there is always one. -/
def keyParts (key : String) : List String :=
  Text.split '.' key

namespace Tables

/-- The table under a name in a table, if there is one. -/
def inner? (ts : Tables) (id : Nat) (name : String) : Option Nat :=
  match Entries.find? name (ts.entries id) with
  | some (.table next) => some next
  | _ => none

/-- What stands under the parts of a key in a table. -/
def get? (ts : Tables) : (parts : List String) → (id : Nat) → Option Item
  | [], _ => none
  | [part], id => Entries.find? part (ts.entries id)
  | part :: next :: rest, id => (ts.inner? id part).bind (ts.get? (next :: rest))

/-- Puts an item under the parts of a key in a table; what is in the way and no table gives way to a
new one. -/
def set (ts : Tables) : (parts : List String) → Item → (id : Nat) → Tables
  | [], _, _ => ts
  | [part], x, id => ts.put id part x
  | part :: next :: rest, x, id =>
    match ts.inner? id part with
    | some inner => ts.set (next :: rest) x inner
    | none => set (put (ts ++ [[]]) id part (.table ts.length)) (next :: rest) x ts.length

/-- Takes out what stands under the parts of a key in a table, if there is something. -/
def remove? (ts : Tables) : (parts : List String) → (id : Nat) → Option Tables
  | [], _ => none
  | [part], id => if Entries.has part (ts.entries id) then some (ts.erase id part) else none
  | part :: next :: rest, id => (ts.inner? id part).bind (ts.remove? (next :: rest))

/-- Puts a new value under a name in a table. -/
def putNew (ts : Tables) (id : Nat) (name : String) (v : Value) : Tables :=
  let (x, ts) := ts.hold v
  ts.put id name x

mutual

/-- Lays a new value over the entry of a table: a table goes into a table, and anything else
replaces what was there. -/
def lay (ts : Tables) (id : Nat) (name : String) (v : Value) : Tables :=
  match v with
  | .table source =>
    match ts.inner? id name with
    | some inner => merge ts inner source
    | none => ts.putNew id name (.table source)
  | v => ts.putNew id name v

/-- Lays each entry of a new table over the entry of the same name in a table. -/
def merge (ts : Tables) (id : Nat) (source : List (String × Value)) : Tables :=
  match source with
  | [] => ts
  | (name, v) :: rest => merge (lay ts id name v) id rest

end

end Tables

/-- The settings that hold before anything is loaded. -/
def defaults : Entries Value := [
  ("parser", .table [("features", .text "html5lib"), ("fallback_features", .text "html.parser")]),
  ("converter", .table [("report_unknown_nodes", .bool true)]),
  ("logging", .table [("console_level", .text "WARNING"), ("log_file", .null)])]

end TypedMarkup.Settings
