import TypedMarkup.Double
import Mathlib.Algebra.Group.Nat.Defs

/-!
# Rounding to doubles

A ratio of units is rounded to the size that is nearest to it (`round?_nearest`), a size to itself
(`round?_units`), and only what is beyond all sizes is not rounded (`round?_eq_none_iff`). A decimal
is rounded as a ratio, whatever its exponent (`ofDecimal_eq`).
-/

namespace TypedMarkup

namespace Magnitude

variable {a d p : Nat} {m : Magnitude}

/-! ## Integers -/

theorem nearest_cases (a d : Nat) :
    (nearest a d = a / d ∧ 2 * (a % d) ≤ d) ∨ (nearest a d = a / d + 1 ∧ d ≤ 2 * (a % d)) := by
  unfold nearest
  dsimp only
  split
  · exact .inl ⟨rfl, by omega⟩
  · exact .inr ⟨rfl, by omega⟩

theorem nearest_mul (k : Nat) (hd : 0 < d) : nearest (k * d) d = k := by
  rw [nearest, Nat.mul_mod_left, Nat.mul_div_cancel k hd]
  exact if_pos (.inl (by omega))

/-- No multiple is nearer. -/
theorem nearest_le (a : Nat) (hd : 0 < d) (k : Nat) :
    ((a : Int) - (nearest a d * d : Nat)).natAbs ≤ ((a : Int) - (k * d : Nat)).natAbs := by
  have hsum : a / d * d + a % d = a := Nat.div_add_mod' a d
  have hover := Nat.mod_lt a hd
  have hside : k * d ≤ a / d * d ∨ a / d * d + d ≤ k * d := by
    rcases Nat.lt_or_ge (a / d) k with h | h
    · exact .inr (by rw [← Nat.succ_mul]; exact Nat.mul_le_mul_right d h)
    · exact .inl (Nat.mul_le_mul_right d h)
  have hnext : (a / d + 1) * d = a / d * d + d := Nat.succ_mul _ _
  rcases nearest_cases a d with ⟨h, hhalf⟩ | ⟨h, hhalf⟩ <;> rw [h] <;> omega

/-! ## The shift -/

theorem units_eq (m : Magnitude) : m.units = m.significand * 2 ^ m.shift :=
  Nat.shiftLeft_eq _ _

/-- A shift with which a ratio of units has a significand of at most 53 bits, and with a smaller one
it has not. -/
def ShiftOf (a d p : Nat) : Prop :=
  a < d * 2 ^ (p + 53) ∧ (p = 0 ∨ d * 2 ^ (p + 52) ≤ a)

theorem shiftOf_log2 (a : Nat) (hd : 0 < d) : ShiftOf a d (Nat.log2 (a / d) - 52) := by
  constructor
  · have hunits : a / d < 2 ^ (Nat.log2 (a / d) - 52 + 53) :=
      Nat.lt_of_lt_of_le Nat.lt_log2_self (Nat.pow_le_pow_right (by decide) (by omega))
    rw [Nat.mul_comm]
    exact (Nat.div_lt_iff_lt_mul hd).mp hunits
  · by_cases hp : Nat.log2 (a / d) - 52 = 0
    · exact .inl hp
    · have hne : a / d ≠ 0 := fun h => hp (by rw [h]; rfl)
      have hunits : 2 ^ (Nat.log2 (a / d) - 52 + 52) ≤ a / d := by
        rw [Nat.sub_add_cancel (by omega)]
        exact Nat.log2_self_le hne
      rw [Nat.mul_comm]
      exact .inr ((Nat.le_div_iff_mul_le hd).mp hunits)

/-- There is only one such shift. -/
theorem ShiftOf.unique {q : Nat} (h : ShiftOf a d p) (k : ShiftOf a d q) : p = q := by
  have hle {p q : Nat} (h : ShiftOf a d p) (k : ShiftOf a d q) : q ≤ p := by
    rcases k.2 with rfl | hq
    · exact Nat.zero_le p
    · have hlt : 2 ^ (q + 52) < 2 ^ (p + 53) :=
        Nat.lt_of_mul_lt_mul_left (Nat.lt_of_le_of_lt hq h.1)
      have := (Nat.pow_lt_pow_iff_right (by decide)).mp hlt
      omega
  exact Nat.le_antisymm (hle k h) (hle h k)

theorem shiftOf_units (m : Magnitude) (hd : 0 < d) : ShiftOf (m.units * d) d m.shift := by
  have hpow (k : Nat) : d * 2 ^ (m.shift + k) = 2 ^ k * 2 ^ m.shift * d := by
    rw [Nat.pow_add, Nat.mul_comm d, Nat.mul_comm (2 ^ m.shift)]
  rw [ShiftOf, hpow, hpow, units_eq]
  exact ⟨Nat.mul_lt_mul_of_pos_right (Nat.mul_lt_mul_of_pos_right m.lt (Nat.two_pow_pos _)) hd,
    m.full.imp_right fun h => Nat.mul_le_mul_right d (Nat.mul_le_mul_right _ h)⟩

/-- The significand with this shift. -/
theorem ShiftOf.nearest_bounds (h : ShiftOf a d p) (hd : 0 < d) :
    nearest a (d * 2 ^ p) ≤ 2 ^ 53 ∧ (p = 0 ∨ 2 ^ 52 ≤ nearest a (d * 2 ^ p)) := by
  have hpos : 0 < d * 2 ^ p := Nat.mul_pos hd (Nat.two_pow_pos p)
  have hbelow : a / (d * 2 ^ p) < 2 ^ 53 := by
    rw [Nat.div_lt_iff_lt_mul hpos, Nat.mul_comm, Nat.mul_assoc, ← Nat.pow_add]
    exact h.1
  have hfull : p = 0 ∨ 2 ^ 52 ≤ a / (d * 2 ^ p) := h.2.imp_right fun h => by
    rw [Nat.le_div_iff_mul_le hpos, Nat.mul_comm, Nat.mul_assoc, ← Nat.pow_add]
    exact h
  rcases nearest_cases a (d * 2 ^ p) with ⟨hs, -⟩ | ⟨hs, -⟩ <;> rw [hs] <;> omega

/-! ## Rounding -/

theorem of?_eq (h : a < 2 ^ 53) (hfull : p = 0 ∨ 2 ^ 52 ≤ a) :
    of? a p = if hle : p ≤ topShift then some ⟨a, p, h, hfull, hle⟩ else none := by
  unfold of?
  by_cases hle : p ≤ topShift
  · rw [dif_pos ⟨h, hfull, hle⟩, dif_pos hle]
  · rw [dif_neg fun k => hle k.2.2, dif_neg hle]

theorem ShiftOf.round?_eq (h : ShiftOf a d p) (hd : 0 < d) :
    round? a d =
      if nearest a (d * 2 ^ p) = 2 ^ 53 then of? (2 ^ 52) (p + 1)
      else of? (nearest a (d * 2 ^ p)) p := by
  rw [round?, ← h.unique (shiftOf_log2 a hd), Nat.shiftLeft_eq]
  rfl

/-- The shift of what a ratio is rounded to, which may have one bit more. -/
def roundedShift (a d p : Nat) : Nat :=
  if nearest a (d * 2 ^ p) = 2 ^ 53 then p + 1 else p

/-- A ratio of units is rounded to its significand with its shift, if this is not too large. -/
theorem round?_cases (hd : 0 < d) (hp : ShiftOf a d p) :
    (∃ m, round? a d = some m ∧ m.units = nearest a (d * 2 ^ p) * 2 ^ p ∧
        roundedShift a d p ≤ topShift) ∨
      round? a d = none ∧ topShift < roundedShift a d p := by
  obtain ⟨hle, hfull⟩ := hp.nearest_bounds hd
  rw [hp.round?_eq hd, roundedShift]
  generalize nearest a (d * 2 ^ p) = s at hle hfull ⊢
  by_cases hs : s = 2 ^ 53
  · have hcarry : 2 ^ 52 * 2 ^ (p + 1) = s * 2 ^ p := by
      rw [hs, ← Nat.pow_add, ← Nat.pow_add]
      exact congrArg _ (by omega)
    rw [if_pos hs, if_pos hs, of?_eq (by decide) (.inr (by decide))]
    split
    · exact .inl ⟨_, rfl, (units_eq _).trans hcarry, ‹_›⟩
    · exact .inr ⟨rfl, by omega⟩
  · rw [if_neg hs, if_neg hs, of?_eq (by omega) hfull]
    split
    · exact .inl ⟨_, rfl, units_eq _, ‹_›⟩
    · exact .inr ⟨rfl, by omega⟩

/-- A ratio that is a size is rounded to this size. -/
theorem round?_units (hd : 0 < d) (h : a = m.units * d) : round? a d = some m := by
  have hratio : a = m.significand * (d * 2 ^ m.shift) := by
    rw [h, units_eq, Nat.mul_assoc, Nat.mul_comm d]
  have hnearest : nearest a (d * 2 ^ m.shift) = m.significand := by
    rw [hratio, nearest_mul _ (Nat.mul_pos hd (Nat.two_pow_pos _))]
  have hshift : ShiftOf a d m.shift := h ▸ shiftOf_units m hd
  have hsmall : m.significand ≠ 2 ^ 53 := Nat.ne_of_lt m.lt
  rw [hshift.round?_eq hd, hnearest, if_neg hsmall, of?_eq m.lt m.full, dif_pos m.le]

/-- What is less than half a unit is rounded to zero. -/
theorem round?_eq_zero (h : 2 * a < d) : round? a d = some .zero := by
  have hbelow : a / d = 0 := Nat.div_eq_of_lt (by omega)
  have hover : a % d = a := Nat.mod_eq_of_lt (by omega)
  have hnearest : nearest a d = 0 := by
    rw [nearest, hbelow, hover]
    exact if_pos (.inl h)
  have hshift : ShiftOf a d 0 := ⟨Nat.lt_of_lt_of_le (by omega) (Nat.le_mul_of_pos_right d
    (Nat.two_pow_pos _)), .inl rfl⟩
  rw [hshift.round?_eq (by omega), Nat.pow_zero, Nat.mul_one, hnearest, if_neg (by decide),
    of?_eq (by decide) (.inl rfl), dif_pos (Nat.zero_le _)]
  rfl

/-- A size is a multiple of the units with a shift, or smaller than all sizes of this shift. -/
theorem units_cases (m : Magnitude) (p : Nat) :
    (∃ k, m.units = k * 2 ^ p) ∨ p ≠ 0 ∧ m.units ≤ 2 ^ 52 * 2 ^ p := by
  rw [units_eq]
  rcases Nat.lt_or_ge m.shift p with h | h
  · refine .inr ⟨by omega, ?_⟩
    calc m.significand * 2 ^ m.shift ≤ 2 ^ 53 * 2 ^ m.shift :=
          Nat.mul_le_mul_right _ (Nat.le_of_lt m.lt)
      _ = 2 ^ (53 + m.shift) := (Nat.pow_add 2 53 m.shift).symm
      _ ≤ 2 ^ (52 + p) := Nat.pow_le_pow_right (by decide) (by omega)
      _ = 2 ^ 52 * 2 ^ p := Nat.pow_add 2 52 p
  · refine .inl ⟨m.significand * 2 ^ (m.shift - p), ?_⟩
    rw [Nat.mul_assoc, ← Nat.pow_add, Nat.sub_add_cancel h]

/-- No size is nearer to a ratio than the one that it is rounded to. -/
theorem round?_nearest (hd : 0 < d) (h : round? a d = some m) (other : Magnitude) :
    ((a : Int) - (m.units * d : Nat)).natAbs ≤ ((a : Int) - (other.units * d : Nat)).natAbs := by
  have hp := shiftOf_log2 a hd
  generalize Nat.log2 (a / d) - 52 = p at hp
  have hunits : m.units = nearest a (d * 2 ^ p) * 2 ^ p := by
    rcases round?_cases hd hp with ⟨_, hm, hunits, -⟩ | ⟨hnone, -⟩
    · rw [Option.some.inj (h.symm.trans hm), hunits]
    · exact absurd (h.symm.trans hnone) (by simp)
  have hmul (k : Nat) : k * 2 ^ p * d = k * (d * 2 ^ p) := by
    rw [Nat.mul_assoc, Nat.mul_comm (2 ^ p)]
  have hle := nearest_le a (Nat.mul_pos hd (Nat.two_pow_pos p))
  rw [hunits, hmul]
  rcases other.units_cases p with ⟨k, hk⟩ | ⟨hne, hk⟩
  · rw [hk, hmul]
    exact hle k
  · -- the least size of this shift lies between the other one and the ratio
    have hbelow : 2 ^ 52 * (d * 2 ^ p) ≤ a := by
      have h := hp.2.resolve_left hne
      rwa [Nat.pow_add, ← Nat.mul_assoc, Nat.mul_comm] at h
    have hother : other.units * d ≤ 2 ^ 52 * (d * 2 ^ p) := by
      rw [← hmul]
      exact Nat.mul_le_mul_right d hk
    have := hle (2 ^ 52)
    omega

theorem ShiftOf.topShift_lt_iff (hp : ShiftOf a d p) (hd : 0 < d) :
    topShift < roundedShift a d p ↔ (2 ^ 54 - 1) * (d * 2 ^ topShift) ≤ 2 * a := by
  have hpos : 0 < d * 2 ^ topShift := Nat.mul_pos hd (Nat.two_pow_pos _)
  have hpow (k q : Nat) (h : q = topShift + k) : d * 2 ^ q = 2 ^ k * (d * 2 ^ topShift) := by
    rw [h, Nat.pow_add, ← Nat.mul_assoc, Nat.mul_comm]
  unfold roundedShift
  rcases Nat.lt_trichotomy p topShift with hlt | rfl | hlt
  · -- a smaller shift
    have hle : d * 2 ^ (p + 53) ≤ d * 2 ^ (topShift + 52) :=
      Nat.mul_le_mul_left d (Nat.pow_le_pow_right (by decide) (by omega))
    have ha := Nat.lt_of_lt_of_le hp.1 hle
    rw [hpow 52 _ rfl] at ha
    split <;> omega
  · -- the largest shift: the significand has one bit more just from halfway on
    have ha := hp.1
    rw [hpow 53 _ rfl] at ha
    have hsum := Nat.div_add_mod' a (d * 2 ^ topShift)
    have hover := Nat.mod_lt a hpos
    have hq : a / (d * 2 ^ topShift) < 2 ^ 53 := (Nat.div_lt_iff_lt_mul hpos).mpr ha
    unfold nearest
    generalize d * 2 ^ topShift = e at *
    by_cases hlast : a / e = 2 ^ 53 - 1
    · rw [hlast] at hsum ⊢
      dsimp only
      split <;> split <;> omega
    · have hmul : (a / e + 1) * e ≤ (2 ^ 53 - 1) * e := Nat.mul_le_mul_right e (by omega)
      rw [Nat.succ_mul] at hmul
      dsimp only
      split <;> split <;> omega
  · -- a larger shift
    have ha : d * 2 ^ (p + 52) ≤ a := hp.2.resolve_left (by omega)
    have hle : d * 2 ^ (topShift + 53) ≤ d * 2 ^ (p + 52) :=
      Nat.mul_le_mul_left d (Nat.pow_le_pow_right (by decide) (by omega))
    rw [hpow 53 _ rfl] at hle
    split <;> omega

/-- Only what is beyond all sizes is not rounded: a ratio that is halfway or more from the largest
of them to the next power of two. -/
theorem round?_eq_none_iff (hd : 0 < d) :
    round? a d = none ↔ (2 ^ 54 - 1) * (d * 2 ^ topShift) ≤ 2 * a := by
  have hp := shiftOf_log2 a hd
  rw [← hp.topShift_lt_iff hd]
  rcases round?_cases hd hp with ⟨m, hm, -, hle⟩ | ⟨hnone, hlt⟩
  · rw [hm]
    simpa using hle
  · exact ⟨fun _ => hlt, fun _ => hnone⟩

end Magnitude

namespace Double

open Magnitude (round?_units round?_eq_none_iff round?_eq_zero)

/-! ## Decimals -/

theorem oneShift_eq : oneShift = 1074 := by
  unfold oneShift
  rfl

theorem topShift_eq : topShift = 2045 := by
  unfold topShift
  rfl

theorem ofRatio_of_units {num den : Nat} {m : Magnitude} (negative : Bool) (hd : 0 < den)
    (h : num * 2 ^ oneShift = m.units * den) : ofRatio negative num den = finite negative m := by
  rw [← Nat.shiftLeft_eq] at h
  rw [ofRatio, round?_units hd h, Option.map_some, Option.getD_some]

/-- From `10 ^ 401` on a number is infinite. -/
theorem ofRatio_of_large {n k : Nat} (negative : Bool) (hn : n ≠ 0) (hk : 400 < k) :
    ofRatio negative (n * 10 ^ k) 1 = infinite negative := by
  have hshift : 54 + topShift ≤ 3 * k + oneShift := by
    rw [topShift_eq, oneShift_eq]
    omega
  have hunits : 2 ^ (54 + topShift) ≤ n * 10 ^ k * 2 ^ oneShift := by
    calc 2 ^ (54 + topShift) ≤ 2 ^ (3 * k + oneShift) := Nat.pow_le_pow_right (by decide) hshift
      _ = (2 ^ 3) ^ k * 2 ^ oneShift := by rw [Nat.pow_add, Nat.pow_mul]
      _ ≤ 10 ^ k * 2 ^ oneShift :=
          Nat.mul_le_mul_right _ (Nat.pow_le_pow_left (by decide) k)
      _ ≤ n * 10 ^ k * 2 ^ oneShift :=
          Nat.mul_le_mul_right _ (Nat.le_mul_of_pos_left _ (Nat.pos_of_ne_zero hn))
  have hlarge : (2 ^ 54 - 1) * (1 * 2 ^ topShift) ≤ 2 * ((n * 10 ^ k) <<< oneShift) := by
    rw [Nat.pow_add] at hunits
    rw [Nat.shiftLeft_eq]
    omega
  rw [ofRatio, (round?_eq_none_iff Nat.one_pos).mpr hlarge, Option.map_none, Option.getD_none]

/-- A power of ten that is long enough leaves less than half a unit. -/
theorem ofRatio_of_small {n k : Nat} (negative : Bool) (hk : n.log2 + 2000 < k) :
    ofRatio negative n (10 ^ (k + 1)) = finite negative .zero := by
  have hshift : n.log2 + 1 + (oneShift + 1) ≤ k + 1 := by
    rw [oneShift_eq]
    omega
  have hsmall : 2 * (n <<< oneShift) < 10 ^ (k + 1) := by
    calc 2 * (n <<< oneShift) = n * 2 ^ (oneShift + 1) := by
          rw [Nat.shiftLeft_eq, Nat.pow_succ, Nat.mul_left_comm, Nat.mul_comm 2]
      _ < 2 ^ (n.log2 + 1) * 2 ^ (oneShift + 1) :=
          Nat.mul_lt_mul_of_pos_right Nat.lt_log2_self (Nat.two_pow_pos _)
      _ = 2 ^ (n.log2 + 1 + (oneShift + 1)) := (Nat.pow_add 2 _ _).symm
      _ ≤ 2 ^ (k + 1) := Nat.pow_le_pow_right (by decide) hshift
      _ ≤ 10 ^ (k + 1) := Nat.pow_le_pow_left (by decide) _
  rw [ofRatio, round?_eq_zero hsmall, Option.map_some, Option.getD_some]

/-- A decimal is rounded as a ratio, also where its exponent tells the number alone. -/
theorem ofDecimal_eq (negative : Bool) (n : Nat) (e : Int) :
    ofDecimal negative n e = ofRatio negative (n * 10 ^ e.toNat) (10 ^ (-e).toNat) := by
  unfold ofDecimal
  by_cases hn : n = 0
  · have hzero : 0 * 10 ^ e.toNat * 2 ^ oneShift = Magnitude.zero.units * 10 ^ (-e).toNat := by
      rw [Magnitude.units_eq, Magnitude.zero, Nat.zero_mul, Nat.zero_mul, Nat.zero_mul,
        Nat.zero_mul]
    rw [if_pos hn, hn, ofRatio_of_units negative (Nat.pow_pos (by decide)) hzero]
  rw [if_neg hn]
  cases e with
  | ofNat k =>
    have hone : (-Int.ofNat k).toNat = 0 := by
      rw [Int.ofNat_eq_natCast]
      omega
    rw [hone, Nat.pow_zero]
    by_cases hk : 400 < k
    · exact (if_pos hk).trans (ofRatio_of_large negative hn hk).symm
    · exact if_neg hk
  | negSucc k =>
    have hone : (Int.negSucc k).toNat = 0 := rfl
    have hneg : (-Int.negSucc k).toNat = k + 1 := rfl
    rw [hone, hneg, Nat.pow_zero, Nat.mul_one]
    by_cases hk : n.log2 + 2000 < k
    · exact (if_pos hk).trans (ofRatio_of_small negative hk).symm
    · exact if_neg hk

end Double

end TypedMarkup
