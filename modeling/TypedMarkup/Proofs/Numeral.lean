import TypedMarkup.Numeral
import TypedMarkup.Proofs.Double

/-!
# Written numbers are read back

The digits of an integer are read as this integer (`read?_toDigits`), and the text of a finite
double as this double (`read?_text`): it is looked for among texts that are read so, and one of them
is, the exact decimal of the double. What is read consists of digits, signs, points and the letters
of exponents (`isNumeral_of_read?`).
-/

namespace TypedMarkup.Numeral

variable {c : Char} {cs ds rest : List Char}

/-! ## Digits -/

theorem digit?_of_isDigit (h : c.isDigit = true) :
    Text.digit? c = some (c.toNat - '0'.toNat) := by
  unfold Text.digit?
  rw [if_pos]
  · rfl
  · simpa [Char.isDigit, Char.le_def] using h

/-- Decimal digits are read as the number that they spell. -/
theorem foldlM_digits {w : List Char} (hw : ∀ c ∈ w, c.isDigit = true) (n : Nat) :
    w.foldlM (fun n c => (Text.digit? c).map fun d => 10 * n + d) n =
      some (Nat.ofDigitChars 10 w n) := by
  induction w generalizing n with
  | nil => rfl
  | cons c w ih =>
    rw [List.foldlM_cons, digit?_of_isDigit (hw c List.mem_cons_self), Option.map_some]
    exact ih (fun d hd => hw d (List.mem_cons_of_mem c hd)) _

/-- The digits of a number other than zero do not begin with a zero. -/
theorem head_toDigits {n : Nat} (h : 0 < n) : (Nat.toDigits 10 n).head? ≠ some '0' := by
  induction n using Nat.strongRecOn with
  | ind n ih =>
    by_cases hlt : n < 10
    · rw [Nat.toDigits_of_lt_base hlt]
      have hdigit : ∀ m < 10, 0 < m → [Nat.digitChar m].head? ≠ some '0' := by decide
      exact hdigit n hlt h
    · have hhead := ih (n / 10) (by omega) (by omega)
      rw [Nat.toDigits_of_base_le (by decide) (by omega), List.head?_append]
      cases hd : (Nat.toDigits 10 (n / 10)).head? with
      | none => exact absurd (List.head?_eq_none_iff.mp hd) Nat.toDigits_ne_nil
      | some c => rwa [hd] at hhead

theorem isDigit_of_mem_toDigits {n : Nat} (h : c ∈ Nat.toDigits 10 n) : c.isDigit = true :=
  Nat.isDigit_of_mem_toDigits (by decide) (by decide) h

/-- The digits of a number are read as this number. -/
theorem natural?_toDigits (n : Nat) : natural? (Nat.toDigits 10 n) = some n := by
  have hfold : (Nat.toDigits 10 n).foldlM
      (fun n c => (Text.digit? c).map fun d => 10 * n + d) 0 = some n := by
    rw [foldlM_digits fun c hc => isDigit_of_mem_toDigits hc,
      Nat.ofDigitChars_toDigits (by decide) (by decide)]
  rw [← hfold]
  unfold natural?
  split
  · rename_i h
    exact absurd h Nat.toDigits_ne_nil
  · rename_i d ds h
    by_cases hn : 0 < n
    · exact absurd (by rw [h]; rfl) (head_toDigits hn)
    · obtain rfl := Nat.eq_zero_of_not_pos hn
      simp at h
  · rfl

/-- Digits in front of what begins with none are all the digits in front. -/
theorem takeWhile_digits (hds : ∀ c ∈ ds, c.isDigit = true)
    (hrest : ∀ c ∈ rest.head?, c.isDigit = false) :
    (ds ++ rest).takeWhile Char.isDigit = ds := by
  rw [List.takeWhile_append_of_pos hds]
  cases rest with
  | nil => exact List.append_nil ds
  | cons c rest => rw [List.takeWhile_cons_of_neg (by simp [hrest c rfl]), List.append_nil]

theorem dropWhile_digits (hds : ∀ c ∈ ds, c.isDigit = true)
    (hrest : ∀ c ∈ rest.head?, c.isDigit = false) :
    (ds ++ rest).dropWhile Char.isDigit = rest := by
  rw [List.dropWhile_append_of_pos hds]
  cases rest with
  | nil => rfl
  | cons c rest => rw [List.dropWhile_cons_of_neg (by simp [hrest c rfl])]

/-! ## Integers -/

/-- The digits of a number in front of what begins with none. -/
theorem unsigned?_toDigits (negative : Bool) (n : Nat)
    (hrest : ∀ c ∈ rest.head?, c.isDigit = false) :
    unsigned? negative (Nat.toDigits 10 n ++ rest) = ending? negative n rest := by
  have hds : ∀ c ∈ Nat.toDigits 10 n, c.isDigit = true := fun c hc => isDigit_of_mem_toDigits hc
  rw [unsigned?, takeWhile_digits hds hrest, dropWhile_digits hds hrest, natural?_toDigits]
  rfl

/-- Behind a sign, digits do not begin with another one. -/
theorem read?_sign (negative : Bool) (n : Nat) (rest : List Char) :
    read? (sign negative ++ (Nat.toDigits 10 n ++ rest)) =
      unsigned? negative (Nat.toDigits 10 n ++ rest) := by
  cases negative with
  | true => rfl
  | false =>
    obtain ⟨d, ds, h⟩ := List.exists_cons_of_ne_nil (Nat.toDigits_ne_nil (n := n) (b := 10))
    have hd : d.isDigit = true := isDigit_of_mem_toDigits (h ▸ List.mem_cons_self)
    rw [h, sign, if_neg Bool.false_ne_true, List.nil_append, List.cons_append]
    unfold read?
    split
    · rename_i hminus
      rw [(List.cons.inj hminus).1] at hd
      exact absurd hd (by decide)
    · rfl

/-- The digits of a number, behind a sign, are read as this number. -/
theorem read?_toDigits (negative : Bool) (n : Nat) :
    read? (sign negative ++ Nat.toDigits 10 n) =
      some (.int (if negative then -n else n)) := by
  have h := read?_sign negative n []
  rw [unsigned?_toDigits negative n (by simp), List.append_nil] at h
  exact h

/-! ## Characters -/

/-- Whether numbers are written with a character. -/
def isNumeral (c : Char) : Bool :=
  c.isDigit || c ∈ ['-', '+', '.', 'e', 'E']

theorem all_isNumeral_of_digits (h : cs.all Char.isDigit = true) : cs.all isNumeral = true := by
  rw [List.all_eq_true] at h ⊢
  exact fun c hc => by rw [isNumeral, h c hc, Bool.true_or]

/-- Digits in front leave the other characters to be looked at. -/
theorem all_isNumeral_of_dropWhile (h : (cs.dropWhile Char.isDigit).all isNumeral = true) :
    cs.all isNumeral = true := by
  rw [← List.takeWhile_append_dropWhile (p := Char.isDigit) (l := cs), List.all_append, h,
    Bool.and_true]
  exact all_isNumeral_of_digits List.all_takeWhile

theorem all_isNumeral_of_exponent? {k : Int} (h : exponent? cs = some k) :
    cs.all isNumeral = true := by
  cases cs with
  | nil => rfl
  | cons c ds =>
    rw [exponent?] at h
    by_cases hletter : c = 'e' ∨ c = 'E'
    · have hc : isNumeral c = true := by rcases hletter with rfl | rfl <;> decide
      rw [if_pos hletter] at h
      dsimp only at h
      split at h
      · exact absurd h (by simp)
      · rename_i hdigits
        have hall : (exponentSign ds).2.all isNumeral = true := by
          rw [Bool.or_eq_true, not_or, Bool.not_eq_true', Bool.not_eq_false] at hdigits
          exact all_isNumeral_of_digits hdigits.2
        rw [List.all_cons, hc, Bool.true_and]
        unfold exponentSign at hall
        split at hall <;> exact hall
    · exact absurd h (by simp [hletter])

theorem all_isNumeral_of_fraction? (h : fraction? cs = some (ds, rest))
    (hrest : rest.all isNumeral = true) : cs.all isNumeral = true := by
  unfold fraction? at h
  split at h
  · dsimp only at h
    split at h
    · exact absurd h (by simp)
    · obtain ⟨-, rfl⟩ := Prod.mk.inj (Option.some.inj h)
      rw [List.all_cons, all_isNumeral_of_dropWhile hrest]
      rfl
  · obtain ⟨-, rfl⟩ := Prod.mk.inj (Option.some.inj h)
    exact hrest

theorem all_isNumeral_of_unsigned? {negative : Bool} {n : Number}
    (h : unsigned? negative cs = some n) : cs ≠ [] ∧ cs.all isNumeral = true := by
  obtain ⟨whole, hwhole, h⟩ := Option.bind_eq_some_iff.mp h
  refine ⟨?_, all_isNumeral_of_dropWhile ?_⟩
  · rintro rfl
    exact absurd hwhole (by simp [natural?])
  unfold ending? at h
  split at h
  · rename_i hempty
    rw [List.isEmpty_iff.mp hempty]
    rfl
  · obtain ⟨⟨ds, rest⟩, hfraction, h⟩ := Option.bind_eq_some_iff.mp h
    obtain ⟨k, hexponent, -⟩ := Option.bind_eq_some_iff.mp h
    exact all_isNumeral_of_fraction? hfraction (all_isNumeral_of_exponent? hexponent)

/-- Of these characters is all that is read, and something is read only from some. -/
theorem isNumeral_of_read? {n : Number} (h : read? cs = some n) :
    cs ≠ [] ∧ cs.all isNumeral = true := by
  unfold read? at h
  split at h
  · exact ⟨List.cons_ne_nil _ _, (all_isNumeral_of_unsigned? h).2⟩
  · exact all_isNumeral_of_unsigned? h

/-! ## Doubles -/

theorem exponentSign_toDigits (negative : Bool) (n : Nat) :
    exponentSign (sign negative ++ Nat.toDigits 10 n) =
      (negative, Nat.toDigits 10 n) := by
  cases negative with
  | true => rfl
  | false =>
    obtain ⟨d, ds, h⟩ := List.exists_cons_of_ne_nil (Nat.toDigits_ne_nil (n := n) (b := 10))
    have hd : d.isDigit = true := isDigit_of_mem_toDigits (h ▸ List.mem_cons_self)
    rw [h, sign, if_neg Bool.false_ne_true, List.nil_append]
    unfold exponentSign
    split <;> rename_i hsign <;> first | rfl | rw [(List.cons.inj hsign).1] at hd
    · exact absurd hd (by decide)
    · exact absurd hd (by decide)

theorem exponent?_toDigits (negative : Bool) (n : Nat) :
    exponent? ('e' :: (sign negative ++ Nat.toDigits 10 n)) =
      some (if negative then -(n : Int) else n) := by
  have hempty : (Nat.toDigits 10 n).isEmpty = false :=
    List.isEmpty_eq_false_iff.mpr Nat.toDigits_ne_nil
  have hall : (Nat.toDigits 10 n).all Char.isDigit = true :=
    List.all_eq_true.mpr fun c hc => isDigit_of_mem_toDigits hc
  rw [exponent?, if_pos (.inl rfl), exponentSign_toDigits]
  simp only [hempty, hall, Nat.ofDigitChars_toDigits (b := 10) (by decide) (by decide)]
  rfl

/-- A decimal in its plain form, behind a sign, is rounded to a double. -/
theorem read?_plain (negative : Bool) (d : Decimal) :
    read? (sign negative ++ d.plain) =
      some (.double (.ofDecimal negative d.digits d.exponent)) := by
  have hexponent : exponent? ('e' :: (sign (d.exponent < 0) ++
      Nat.toDigits 10 d.exponent.natAbs)) = some d.exponent := by
    rw [exponent?_toDigits]
    by_cases h : d.exponent < 0
    · rw [if_pos (decide_eq_true h)]
      exact congrArg some (by omega)
    · rw [if_neg (by simp [h])]
      exact congrArg some (by omega)
  rw [Decimal.plain, read?_sign, unsigned?_toDigits negative _ (by simp), ending?]
  simp [fraction?, hexponent]

end TypedMarkup.Numeral

namespace TypedMarkup

/-- A size is what its decimal is rounded to. -/
theorem Magnitude.ofDecimal_decimal (negative : Bool) (m : Magnitude) :
    Double.ofDecimal negative m.decimal.digits m.decimal.exponent = .finite negative m := by
  rw [Double.ofDecimal_eq]
  refine Double.ofRatio_of_units negative (Nat.pow_pos (by decide)) ?_
  rw [decimal, units_eq]
  split
  · rename_i h
    have hneg : ((m.shift : Int) - oneShift).toNat = 0 := by omega
    have hpos : (-((m.shift : Int) - oneShift)).toNat = oneShift - m.shift := by omega
    have hpow : 2 ^ oneShift = 2 ^ m.shift * 2 ^ (oneShift - m.shift) := by
      rw [← Nat.pow_add, Nat.add_sub_cancel' (Nat.le_of_lt h)]
    have hten : 10 ^ (oneShift - m.shift) =
        2 ^ (oneShift - m.shift) * Nat.pow 5 (oneShift - m.shift) := Nat.mul_pow 2 5 _
    rw [hneg, hpos, hpow, hten, Nat.pow_zero, Nat.mul_one]
    dsimp only
    ac_rfl
  · rename_i h
    have hpow : 2 ^ m.shift = 2 ^ (m.shift - oneShift) * 2 ^ oneShift := by
      rw [← Nat.pow_add, Nat.sub_add_cancel (Nat.le_of_not_lt h)]
    rw [hpow, Nat.shiftLeft_eq]
    simp [Nat.mul_assoc]

namespace Double

/-- The text of a finite number is read as this number. -/
theorem read?_text (negative : Bool) (m : Magnitude) :
    Numeral.read? (finite negative m).text.toList = some (.double (finite negative m)) := by
  have hplain : (finite negative m).isReadFrom (Numeral.sign negative ++ m.decimal.plain) =
      true := by
    rw [isReadFrom, Numeral.read?_plain, m.ofDecimal_decimal, beq_self_eq_true]
  have hmem : Numeral.sign negative ++ m.decimal.plain ∈ spellings negative m :=
    List.mem_map_of_mem (List.mem_append_right _ List.mem_cons_self)
  have hsome : ((spellings negative m).find? (finite negative m).isReadFrom).isSome = true :=
    List.find?_isSome.mpr ⟨_, hmem, hplain⟩
  obtain ⟨cs, hcs⟩ := Option.isSome_iff_exists.mp hsome
  have hread : (finite negative m).isReadFrom cs = true := List.find?_some hcs
  rw [text, hcs, Option.getD_some, String.toList_ofList]
  exact eq_of_beq hread

end Double

end TypedMarkup
