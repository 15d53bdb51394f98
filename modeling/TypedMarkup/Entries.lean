/-!
# Named entries

A list of entries under names, kept in the order in which the names first came. `put` replaces in
place or adds at the end, `erase` takes an entry out, and `find?` reads one.
-/

namespace TypedMarkup

/-- Entries under names, in the order in which the names first came. -/
abbrev Entries (α : Type) := List (String × α)

namespace Entries

variable {α : Type}

/-- The entry under exactly this name. -/
def find? (name : String) : Entries α → Option α
  | [] => none
  | (n, v) :: rest => if n = name then some v else find? name rest

/-- Whether there is an entry under exactly this name. -/
def has (name : String) (entries : Entries α) : Bool :=
  (find? name entries).isSome

/-- Puts an entry under a name: in place of the one that is there, else at the end. -/
def put (name : String) (value : α) : Entries α → Entries α
  | [] => [(name, value)]
  | (n, v) :: rest => if n = name then (n, value) :: rest else (n, v) :: put name value rest

/-- The entries without the one under this name. -/
def erase (name : String) : Entries α → Entries α
  | [] => []
  | (n, v) :: rest => if n = name then rest else (n, v) :: erase name rest

/-- The names, in order. -/
def names (entries : Entries α) : List String :=
  entries.map Prod.fst

/-- Puts each entry of a list in turn: a name keeps its first place and takes its last value. -/
def ofList (pairs : List (String × α)) : Entries α :=
  pairs.foldl (fun entries p => entries.put p.1 p.2) []

end Entries

end TypedMarkup
