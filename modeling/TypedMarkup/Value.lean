import TypedMarkup.Entries
import TypedMarkup.Numeral
import TypedMarkup.Text.Quoted
import TypedMarkup.Text.Blank

/-!
# Values

The values that settings and attributes are given as: null, truth values, integers, doubles, texts,
lists and tables. `shown` is the text of a value in messages and in attributes, `literal` its text
inside a list or a table, where a text is quoted.
-/

namespace TypedMarkup

/-- A value as callers hand it over. The entries of a table keep their order. -/
inductive Value where
  | null
  | bool (b : Bool)
  | int (n : Int)
  | double (x : Double)
  | text (s : String)
  | list (items : List Value)
  | table (entries : List (String × Value))
  deriving Repr, Inhabited

namespace Value

/-- The text of an integer: decimal digits, behind a minus sign when it is negative. -/
def decimal (n : Int) : String :=
  match n with
  | .ofNat k => Nat.repr k
  | .negSucc k => "-" ++ Nat.repr (k + 1)

mutual

/-- The text of a value inside a list or a table. -/
def literal : Value → String
  | null => "None"
  | bool b => if b then "True" else "False"
  | int n => decimal n
  | double x => x.text
  | text s => Text.quote s
  | list items => "[" ++ Text.join ", " (literals items) ++ "]"
  | table entries => "\x7b" ++ Text.join ", " (entryLiterals entries) ++ "\x7d"

/-- The texts of the items of a list. -/
def literals : List Value → List String
  | [] => []
  | v :: vs => literal v :: literals vs

/-- The texts of the entries of a table, each a quoted name and a value. -/
def entryLiterals : List (String × Value) → List String
  | [] => []
  | (name, v) :: rest => (Text.quote name ++ ": " ++ literal v) :: entryLiterals rest

end

/-- The text of a value standing alone: a text as it is, any other value as in a list. -/
def shown : Value → String
  | text s => s
  | v => literal v

/-- Whether a value counts as true: all but null, false, zero and what is empty. -/
def isTruthy : Value → Bool
  | null => false
  | bool b => b
  | int n => n != 0
  | double x => !x.isZero
  | text s => !s.isEmpty
  | list items => !items.isEmpty
  | table entries => !entries.isEmpty

/-- The amount that a value counts as in comparisons; truth values are 0 and 1. -/
def amount? : Value → Option Amount
  | bool b => some (.ofInt (if b then 1 else 0))
  | int n => some (.ofInt n)
  | double x => some x.amount
  | _ => none

mutual

/-- Whether two values are equal: numbers by size, tables by their entries in any order. As in the
items of lists, what is not a number counts as equal to itself. -/
def same : Value → Value → Bool
  | null, null => true
  | text s, text t => s == t
  | list xs, list ys => sameItems xs ys
  | table xs, table ys => xs.length == ys.length && sameEntries xs ys
  | v, w =>
    match amount? v, amount? w with
    | some m, some n => m == n
    | _, _ => false

/-- Whether two lists have equal items in order. -/
def sameItems : List Value → List Value → Bool
  | [], [] => true
  | x :: xs, y :: ys => same x y && sameItems xs ys
  | _, _ => false

/-- Whether each entry of the first table has an equal one in the second. -/
def sameEntries : List (String × Value) → List (String × Value) → Bool
  | [], _ => true
  | (name, x) :: xs, ys =>
    (match Entries.find? name ys with
      | some y => same x y
      | none => false) && sameEntries xs ys

end

/-- The word for the kind of a value in messages. -/
def kindName : Value → String
  | null => "NoneType"
  | bool _ => "bool"
  | int _ => "int"
  | double _ => "float"
  | text _ => "str"
  | list _ => "list"
  | table _ => "dict"

end Value

end TypedMarkup
