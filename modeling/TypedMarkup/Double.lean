/-!
# Doubles

Binary floating-point numbers of double precision. The size of a finite one is a whole number of
units of 2⁻¹⁰⁷⁴: a significand of at most 53 bits, shifted to the left. `ofDecimal` gives the number
that is nearest to a decimal, as reading a written number does.
-/

namespace TypedMarkup

/-- The shift of the units of one. -/
@[irreducible] def oneShift : Nat :=
  1074

/-- The largest shift of a size. -/
@[irreducible] def topShift : Nat :=
  2045

/-- The size of a finite number: its significand, shifted, is how many units it has. Only with the
smallest shift has the significand less than 53 bits, so that each size is there once. -/
structure Magnitude where
  significand : Nat
  shift : Nat
  lt : significand < 1 <<< 53
  full : shift = 0 ∨ 1 <<< 52 ≤ significand
  le : shift ≤ topShift
  deriving Repr, DecidableEq

namespace Magnitude

/-- The size with this significand and shift, if there is one. -/
def of? (significand shift : Nat) : Option Magnitude :=
  if h : significand < 1 <<< 53 ∧ (shift = 0 ∨ 1 <<< 52 ≤ significand) ∧ shift ≤ topShift then
    some ⟨significand, shift, h.1, h.2.1, h.2.2⟩
  else none

/-- The size of zero. -/
def zero : Magnitude :=
  ⟨0, 0, by decide, .inl rfl, Nat.zero_le topShift⟩

/-- How many units of 2⁻¹⁰⁷⁴ a size has. -/
def units (m : Magnitude) : Nat :=
  m.significand <<< m.shift

/-- The integer nearest to a ratio; of two that are as near, the even one. -/
def nearest (num den : Nat) : Nat :=
  let below := num / den
  let left := num % den
  if 2 * left < den ∨ 2 * left = den ∧ below % 2 = 0 then below else below + 1

/-- The size nearest to a ratio of units, or `none` where the ratio is beyond them all. -/
def round? (num den : Nat) : Option Magnitude :=
  let shift := Nat.log2 (num / den) - 52
  let significand := nearest num (den <<< shift)
  if significand = 1 <<< 53 then of? (1 <<< 52) (shift + 1) else of? significand shift

end Magnitude

/-- A floating-point number of double precision. Zero has a sign too. -/
inductive Double where
  | finite (negative : Bool) (size : Magnitude)
  | infinite (negative : Bool)
  | nan
  deriving Repr, DecidableEq

namespace Double

/-- The number nearest to a ratio; what is beyond all finite numbers is infinite. -/
def ofRatio (negative : Bool) (num den : Nat) : Double :=
  ((Magnitude.round? (num <<< oneShift) den).map (finite negative)).getD (infinite negative)

/-- The number nearest to `digits` times ten to `exponent`. Where the exponent tells it alone, the
power of ten is not worked out. -/
def ofDecimal (negative : Bool) (digits : Nat) (exponent : Int) : Double :=
  if digits = 0 then finite negative .zero
  else
    match exponent with
    | .ofNat k => if 400 < k then infinite negative else ofRatio negative (digits * Nat.pow 10 k) 1
    | .negSucc k =>
      if digits.log2 + 2000 < k then finite negative .zero
      else ofRatio negative digits (Nat.pow 10 (k + 1))

/-- Whether the number is zero. -/
def isZero : Double → Bool
  | finite _ size => size.significand == 0
  | _ => false

end Double

/-- What numbers are compared by: how many units of 2⁻¹⁰⁷⁴ they have, or that they are infinite or
not a number. -/
inductive Amount where
  | units (n : Int)
  | infinite (negative : Bool)
  | nan
  deriving Repr, DecidableEq

/-- The amount of an integer. -/
def Amount.ofInt (n : Int) : Amount :=
  .units (n * (1 <<< oneShift : Nat))

/-- The amount of a number. -/
def Double.amount : Double → Amount
  | finite negative size => .units (if negative then -size.units else size.units)
  | infinite negative => .infinite negative
  | nan => .nan

end TypedMarkup
