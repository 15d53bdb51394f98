import TypedMarkup.Numeral
import TypedMarkup.Text.Blank
import TypedMarkup.Text.Digit
import TypedMarkup.Text.Utf8

/-!
# JSON tokens

The lexical level of JSON. A `Mode` says what the characters read so far have begun, `Mode.step`
reads one more, and `tokens?` runs it over a text. A word is a number or one of a few names, which
those of the doubles that no digits write are among.
-/

namespace TypedMarkup.Json

/-- The lexical units of JSON. -/
inductive Token where
  | beginList
  | endList
  | beginTable
  | endTable
  | comma
  | colon
  | null
  | bool (b : Bool)
  | int (n : Int)
  | double (x : Double)
  | text (s : String)
  deriving Repr, DecidableEq

/-- What the characters read so far have begun. Characters are kept last first; `high` is a first
half of a surrogate pair that waits for the second. -/
inductive Mode where
  | between
  | word (read : List Char)
  | text (high : Option Nat) (read : List Char)
  | escape (high : Option Nat) (read : List Char)
  | unit (high : Option Nat) (digits value : Nat) (read : List Char)
  deriving Repr, DecidableEq

/-- The token that a number is. -/
def ofNumber : Numeral.Number → Token
  | .int n => .int n
  | .double x => .double x

/-- The token that a word spells. -/
def word? (w : List Char) : Option Token :=
  match String.ofList w with
  | "null" => some .null
  | "true" => some (.bool true)
  | "false" => some (.bool false)
  | "NaN" => some (.double .nan)
  | "Infinity" => some (.double (.infinite false))
  | "-Infinity" => some (.double (.infinite true))
  | _ => (Numeral.read? w).map ofNumber

/-- Whether the character may stand between tokens. -/
def isSpace (c : Char) : Bool :=
  c == ' ' || c == '\t' || c == '\n' || c == '\r'

/-- Reads a character between tokens. -/
def start (c : Char) : Mode × List Token :=
  match c with
  | '[' => (.between, [.beginList])
  | ']' => (.between, [.endList])
  | '\x7b' => (.between, [.beginTable])
  | '\x7d' => (.between, [.endTable])
  | ',' => (.between, [.comma])
  | ':' => (.between, [.colon])
  | '"' => (.text none [], [])
  | c => if isSpace c then (.between, []) else (.word [c], [])

/-- Whether the character can only stand at the end of a word. -/
def endsWord (c : Char) : Bool :=
  isSpace c || "[]\x7b\x7d,:\"".toList.contains c

/-- The characters read, after the half of a pair that found no other half. -/
def settle (high : Option Nat) (read : List Char) : List Char :=
  match high with
  | none => read
  | some _ => Text.Utf8.replacement :: read

/-- The character that a letter stands for after a backslash. -/
def escaped? (c : Char) : Option Char :=
  match c with
  | '"' => some '"'
  | '\\' => some '\\'
  | '/' => some '/'
  | 'b' => some (Char.ofNat 8)
  | 'f' => some (Char.ofNat 12)
  | 'n' => some '\n'
  | 'r' => some '\r'
  | 't' => some '\t'
  | _ => none

/-- The text mode after a UTF-16 unit: halves of a pair join, and a lone half is U+FFFD. -/
def addUnit (high : Option Nat) (unit : Nat) (read : List Char) : Mode :=
  match high with
  | some h =>
    if 0xDC00 ≤ unit ∧ unit < 0xE000 then
      .text none (Char.ofNat (0x10000 + (h - 0xD800) * 0x400 + (unit - 0xDC00)) :: read)
    else if 0xD800 ≤ unit ∧ unit < 0xDC00 then .text (some unit) (settle high read)
    else .text none (Char.ofNat unit :: settle high read)
  | none =>
    if 0xD800 ≤ unit ∧ unit < 0xDC00 then .text (some unit) read
    else if 0xDC00 ≤ unit ∧ unit < 0xE000 then .text none (Text.Utf8.replacement :: read)
    else .text none (Char.ofNat unit :: read)

/-- Reads one character: the new mode and the tokens that end here. -/
def Mode.step : Mode → Char → Option (Mode × List Token)
  | .between, c => some (start c)
  | .word read, c =>
    if endsWord c then do
      let token ← word? read.reverse
      let (mode, rest) := start c
      some (mode, token :: rest)
    else some (.word (c :: read), [])
  | .text high read, c =>
    if c = '"' then some (.between, [.text (String.ofList (settle high read).reverse)])
    else if c = '\\' then some (.escape high read, [])
    else if c.toNat < 0x20 then none
    else some (.text none (c :: settle high read), [])
  | .escape high read, c =>
    if c = 'u' then some (.unit high 0 0 read, [])
    else do
      let e ← escaped? c
      some (.text none (e :: settle high read), [])
  | .unit high digits value read, c => do
    let d ← Text.hexDigit? c
    let value := value * 16 + d
    if digits = 3 then some (addUnit high value read, [])
    else some (.unit high (digits + 1) value read, [])

/-- The tokens of the characters, after what `mode` has begun. -/
def scan : Mode → List Char → Option (List Token)
  | .between, [] => some []
  | .word read, [] => (word? read.reverse).map fun t => [t]
  | _, [] => none
  | mode, c :: cs => do
    let (mode, out) ← mode.step c
    let rest ← scan mode cs
    some (out ++ rest)

/-- The tokens of a text, or `none` where it has something that is no token. -/
def tokens? (s : String) : Option (List Token) :=
  scan .between s.toList

end TypedMarkup.Json
