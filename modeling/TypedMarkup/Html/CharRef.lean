import TypedMarkup.Html.CharRef.Table
import TypedMarkup.Text.Blank
import TypedMarkup.Text.Digit

/-!
# Character references

What stands behind an ampersand: a number, in decimal or hexadecimal digits, or one of the names of
the standard. `read` reads one reference and `decode` those of a whole text; an ampersand that
begins no reference is text. Parsers differ in the characters they give for odd numbers and in
names without a semicolon, so both take `Rules`.
-/

namespace TypedMarkup.Html.CharRef

/-- The character that stands in for one that cannot be. -/
def replacement : Char := Char.ofNat 0xFFFD

/-- A name without its ampersand, and the characters it stands for. -/
structure Named where
  name : List Char
  meaning : List Char

/-- An entry of the table. -/
def entry? (s : String) : Option Named :=
  match Text.splitChars '=' s.toList with
  | [name, codes] =>
    some ⟨name, (Text.splitChars '+' codes).map fun ds => Char.ofNat (Text.number 16 ds)⟩
  | _ => none

/-- The names of the standard in the order of the table, a name before those that it begins. -/
def named : List Named :=
  namedRows.flatMap fun row => (Text.split ' ' row).filterMap entry?

/-- The longest name that the input begins with. -/
def longest? (input : List Char) : Option Named :=
  (named.filter fun n => n.name.isPrefixOf input).getLast?

/-- The characters of the code page 1252 from 0x80 to 0x9F, which numbers in that range mean. -/
def westernHigh : List Nat := [
  0x20AC, 0x81, 0x201A, 0x192, 0x201E, 0x2026, 0x2020, 0x2021, 0x2C6, 0x2030, 0x160, 0x2039, 0x152,
  0x8D, 0x17D, 0x8F, 0x90, 0x2018, 0x2019, 0x201C, 0x201D, 0x2022, 0x2013, 0x2014, 0x2DC, 0x2122,
  0x161, 0x203A, 0x153, 0x9D, 0x17E, 0x178]

/-- The code point that a number means: the code page 1252 from 0x80 to 0x9F, else itself. -/
def western (n : Nat) : Nat :=
  if 0x80 ≤ n then (westernHigh[n - 0x80]?).getD n else n

/-- The character with a code point, or the replacement if there is none. -/
def charOf (n : Nat) : Char :=
  if (0xD800 ≤ n && n ≤ 0xDFFF) || 0x10FFFF < n then replacement else Char.ofNat n

/-- The character that a number stands for in the standard. -/
def standardChar (n : Nat) : List Char :=
  [if n = 0 then replacement else charOf (western n)]

/-- Whether the number belongs to no character of text: a control or a noncharacter. -/
def isNoText (n : Nat) : Bool :=
  (1 ≤ n && n ≤ 8) || n == 0xB || (0xE ≤ n && n ≤ 0x1F) || (0x7F ≤ n && n ≤ 0x9F) ||
    (0xFDD0 ≤ n && n ≤ 0xFDEF) || (n % 0x10000 ≥ 0xFFFE && n ≤ 0x10FFFF)

/-- As `standardChar`, but numbers that belong to no character of text stand for nothing. -/
def strictChar (n : Nat) : List Char :=
  if isNoText n && !(0x80 ≤ n && n ≤ 0x9F) then [] else standardChar n

/-- How a parser reads references. -/
structure Rules where
  /-- The characters that a number stands for. -/
  ofNumber : Nat → List Char
  /-- Whether a name without semicolon is text before a letter, a digit or an equals sign. -/
  guarded : Bool

/-- In text, where a name without semicolon may end anywhere. -/
def Rules.inText : Rules := ⟨standardChar, false⟩

/-- In attribute values, where a name without semicolon may be a part of an address. -/
def Rules.inValue : Rules := ⟨standardChar, true⟩

/-- In attribute values of elements that are read as written. -/
def Rules.asWritten : Rules := ⟨strictChar, false⟩

/-- The digits of a number, the count of characters in front of them, and the base. -/
def digitsOf (input : List Char) : List Char × Nat × Nat :=
  match input with
  | 'x' :: rest | 'X' :: rest => (rest.takeWhile fun c => (Text.hexDigit? c).isSome, 1, 16)
  | _ => (input.takeWhile fun c => (Text.digit? c).isSome, 0, 10)

/-- Reads a number behind `&#`: its value and the count of characters, a semicolon included. -/
def number? (input : List Char) : Option (Nat × Nat) :=
  let (digits, skipped, base) := digitsOf input
  if digits.isEmpty then none
  else
    let count := skipped + digits.length
    some (Text.number base digits, if input[count]? = some ';' then count + 1 else count)

/-- Whether a name without semicolon is text when the input goes on so behind it. -/
def isGuard : List Char → Bool
  | [] => false
  | c :: _ => c.isAlphanum || c == '='

/-- Reads what stands behind an ampersand: the characters meant by both, and the count of
characters read. -/
def read (rules : Rules) (input : List Char) : List Char × Nat :=
  match input with
  | '#' :: rest =>
    match number? rest with
    | some (n, count) => (rules.ofNumber n, count + 1)
    | none => (['&'], 0)
  | _ =>
    match longest? input with
    | none => (['&'], 0)
    | some n =>
      let count := n.name.length
      if rules.guarded && n.name.getLast? != some ';' && isGuard (input.drop count)
      then (['&'], 0)
      else (n.meaning, count)

/-- Decodes the references of a text, without the first `skip` characters. -/
def decodeFrom (rules : Rules) : (skip : Nat) → List Char → List Char
  | _, [] => []
  | skip + 1, _ :: rest => decodeFrom rules skip rest
  | 0, c :: rest =>
    if c = '&' then
      let (meaning, count) := read rules rest
      meaning ++ decodeFrom rules count rest
    else c :: decodeFrom rules 0 rest

/-- A text with its references decoded. -/
def decode (rules : Rules) (text : List Char) : List Char :=
  decodeFrom rules 0 text

end TypedMarkup.Html.CharRef
