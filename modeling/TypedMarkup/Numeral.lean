import TypedMarkup.Double
import TypedMarkup.Text.Digit

/-!
# Written numbers

How numbers are read and written. A number with a fraction or an exponent is a double, and any other
an integer. A double is written with the fewest digits from which it is read back (`Double.text`).
-/

namespace TypedMarkup

namespace Numeral

/-- A number that was read. -/
inductive Number where
  | int (n : Int)
  | double (x : Double)
  deriving Repr, DecidableEq

/-- The number with these digits; only a lone zero may begin with zero. -/
def natural? (digits : List Char) : Option Nat :=
  match digits with
  | [] => none
  | '0' :: _ :: _ => none
  | ds => ds.foldlM (fun n c => (Text.digit? c).map fun d => 10 * n + d) 0

/-- The digits of a fraction, if there is one, and what follows. -/
def fraction? (cs : List Char) : Option (List Char × List Char) :=
  match cs with
  | '.' :: cs =>
    let digits := cs.takeWhile Char.isDigit
    if digits.isEmpty then none else some (digits, cs.dropWhile Char.isDigit)
  | cs => some ([], cs)

/-- The sign of an exponent, and what follows. -/
def exponentSign (cs : List Char) : Bool × List Char :=
  match cs with
  | '-' :: cs => (true, cs)
  | '+' :: cs => (false, cs)
  | cs => (false, cs)

/-- The exponent that ends a number; without one it is zero. -/
def exponent? (cs : List Char) : Option Int :=
  match cs with
  | [] => some 0
  | c :: cs =>
    if c = 'e' ∨ c = 'E' then
      let (negative, digits) := exponentSign cs
      if digits.isEmpty || !digits.all Char.isDigit then none
      else
        let n := Nat.ofDigitChars 10 digits 0
        some (if negative then -n else n)
    else none

/-- The number with `n` in front of these characters: a fraction and an exponent, or nothing. -/
def ending? (negative : Bool) (n : Nat) (cs : List Char) : Option Number :=
  if cs.isEmpty then some (.int (if negative then -n else n))
  else do
    let (fraction, cs) ← fraction? cs
    let exponent ← exponent? cs
    let digits := Nat.ofDigitChars 10 fraction n
    some (.double (.ofDecimal negative digits (exponent - fraction.length)))

/-- The number that characters write behind its sign. -/
def unsigned? (negative : Bool) (cs : List Char) : Option Number := do
  let n ← natural? (cs.takeWhile Char.isDigit)
  ending? negative n (cs.dropWhile Char.isDigit)

/-- A sign in front of a number. -/
def sign (negative : Bool) : List Char :=
  if negative then ['-'] else []

/-- The number that characters write. -/
def read? (cs : List Char) : Option Number :=
  match cs with
  | '-' :: cs => unsigned? true cs
  | cs => unsigned? false cs

end Numeral

/-- The number `digits` times ten to `exponent`. -/
structure Decimal where
  digits : Nat
  exponent : Int
  deriving Repr

namespace Decimal

/-- The decimals with `n` digits next to a decimal, the nearer one first; of two that are as near,
the even one. -/
def shortened (d : Decimal) (n : Nat) : List Decimal :=
  let cut := (Nat.toDigits 10 d.digits).length - n
  let ten := Nat.pow 10 cut
  let below : Decimal := ⟨d.digits / ten, d.exponent + cut⟩
  let above : Decimal := ⟨d.digits / ten + 1, d.exponent + cut⟩
  if Magnitude.nearest d.digits ten = below.digits then [below, above] else [above, below]

/-- An exponent behind its letter: a sign and at least two digits. -/
def exponentText (n : Int) : List Char :=
  let digits := Nat.toDigits 10 n.natAbs
  'e' :: (if n < 0 then '-' else '+') :: (if digits.length < 2 then '0' :: digits else digits)

/-- A decimal with a point, as long as this stands in or close to its digits; else with an
exponent. -/
def text (d : Decimal) : List Char :=
  let all := Nat.toDigits 10 d.digits
  let digits := (all.reverse.dropWhile (· = '0')).reverse
  let point := d.exponent + all.length
  if digits.isEmpty then ['0', '.', '0']
  else if -4 < point ∧ point ≤ 0 then
    '0' :: '.' :: List.replicate point.natAbs '0' ++ digits
  else if 0 < point ∧ point ≤ 16 then
    let behind := digits.drop point.toNat
    digits.take point.toNat ++ List.replicate (point.toNat - digits.length) '0' ++
      '.' :: (if behind.isEmpty then ['0'] else behind)
  else
    let behind := digits.drop 1
    digits.take 1 ++ (if behind.isEmpty then [] else '.' :: behind) ++ exponentText (point - 1)

/-- A decimal with its digits and its exponent as they are. -/
def plain (d : Decimal) : List Char :=
  Nat.toDigits 10 d.digits ++
    'e' :: (Numeral.sign (d.exponent < 0) ++ Nat.toDigits 10 d.exponent.natAbs)

end Decimal

/-- The size as a decimal. -/
def Magnitude.decimal (m : Magnitude) : Decimal :=
  if m.shift < oneShift then
    ⟨m.significand * Nat.pow 5 (oneShift - m.shift), m.shift - oneShift⟩
  else ⟨m.significand <<< (m.shift - oneShift), 0⟩

namespace Double

/-- The texts that a finite number may have, those with fewer digits first. -/
def spellings (negative : Bool) (size : Magnitude) : List (List Char) :=
  let exact := size.decimal
  let shorter := (List.range 17).flatMap fun n => exact.shortened (n + 1)
  (shorter.map Decimal.text ++ [exact.plain]).map (Numeral.sign negative ++ ·)

/-- Whether a text is read as this number. -/
def isReadFrom (x : Double) (cs : List Char) : Bool :=
  Numeral.read? cs == some (.double x)

/-- The text of a number: the first of its spellings that it is read back from. -/
def text : Double → String
  | finite negative size =>
    String.ofList (((spellings negative size).find? (finite negative size).isReadFrom).getD [])
  | infinite negative => if negative then "-inf" else "inf"
  | nan => "nan"

end Double

end TypedMarkup
