import TypedMarkup.Value

/-!
# Writing JSON

The written form of a value: ASCII alone, one item or entry a line, four spaces for each level of
nesting, tables in the order of their entries.
-/

namespace TypedMarkup.Json

/-- A UTF-16 unit as an escape. -/
def unitEscape (unit : Nat) : List Char :=
  '\\' :: 'u' :: Text.hexDigits 4 unit

/-- One character of a written text; a character beyond U+FFFF is a pair of surrogates. -/
def escapeChar (c : Char) : List Char :=
  if c = '"' || c = '\\' then ['\\', c]
  else if c = '\n' then ['\\', 'n']
  else if c = '\r' then ['\\', 'r']
  else if c = '\t' then ['\\', 't']
  else if c.toNat = 8 then ['\\', 'b']
  else if c.toNat = 12 then ['\\', 'f']
  else if 0x20 ≤ c.toNat && c.toNat < 0x7F then [c]
  else if c.toNat < 0x10000 then unitEscape c.toNat
  else
    let n := c.toNat - 0x10000
    unitEscape (0xD800 + n / 0x400) ++ unitEscape (0xDC00 + n % 0x400)

/-- A written text, with its quotation marks. -/
def printText (s : String) : String :=
  String.ofList ('"' :: s.toList.flatMap escapeChar ++ ['"'])

/-- A written double. -/
def printDouble : Double → String
  | .finite negative size => (Double.finite negative size).text
  | .infinite negative => if negative then "-Infinity" else "Infinity"
  | .nan => "NaN"

/-- The end of a line and the indentation of the next. -/
def lineBreak (level : Nat) : String :=
  "\n" ++ String.ofList (List.replicate (4 * level) ' ')

mutual

/-- A written value; its inner lines are indented for `level`. -/
def printAt (level : Nat) : Value → String
  | .null => "null"
  | .bool b => if b then "true" else "false"
  | .int n => Value.decimal n
  | .double x => printDouble x
  | .text s => printText s
  | .list [] => "[]"
  | .list (v :: vs) =>
    "[" ++ Text.join "," (printItems (level + 1) (v :: vs)) ++ lineBreak level ++ "]"
  | .table [] => "\x7b\x7d"
  | .table (e :: es) =>
    "\x7b" ++ Text.join "," (printEntries (level + 1) (e :: es)) ++ lineBreak level ++ "\x7d"

/-- The items of a list, each on a line of its own. -/
def printItems (level : Nat) : List Value → List String
  | [] => []
  | v :: vs => (lineBreak level ++ printAt level v) :: printItems level vs

/-- The entries of a table, each on a line of its own. -/
def printEntries (level : Nat) : List (String × Value) → List String
  | [] => []
  | (name, v) :: rest =>
    (lineBreak level ++ printText name ++ ": " ++ printAt level v) :: printEntries level rest

end

/-- The written form of a value. -/
def print (v : Value) : String :=
  printAt 0 v

end TypedMarkup.Json
