import TypedMarkup.Proofs.Text.Utf8
import TypedMarkup.Text.Digit
import TypedMarkup.Text.Quoted
import Mathlib.Algebra.Group.Nat.Defs

/-!
# Quoted texts are read back

A row of hexadecimal digits spells the number that it was made of (`number_hexDigits`). With that
the first character of what stands between two marks is read back, whatever follows it
(`unquoteChar?_quoteChar`), so that different texts have different quoted forms
(`quote_injective`). A quoted form stands on one line, whatever the text
(`newline_not_mem_quote`).
-/

namespace TypedMarkup.Text

/-! ## Hexadecimal digits -/

theorem hexDigit?_hexDigit {d : Nat} (h : d < 16) : hexDigit? (hexDigit d) = some d := by
  revert d
  decide

theorem length_hexDigits (width n : Nat) : (hexDigits width n).length = width := by
  induction width generalizing n with
  | zero => rfl
  | succ width ih => rw [hexDigits, List.length_append, ih, List.length_singleton]

/-- The last digits of a number spell what is left of it. -/
theorem number_hexDigits (width n : Nat) : number 16 (hexDigits width n) = n % 16 ^ width := by
  induction width generalizing n with
  | zero => rw [Nat.pow_zero, Nat.mod_one]; rfl
  | succ width ih =>
    have hlast : number 16 (hexDigits (width + 1) n) =
        16 * number 16 (hexDigits width (n / 16)) + n % 16 := by
      rw [hexDigits, number, List.foldl_append, List.foldl_cons, List.foldl_nil,
        hexDigit?_hexDigit (Nat.mod_lt n (by decide))]
      rfl
    rw [hlast, ih, Nat.pow_succ, Nat.mul_comm (16 ^ width) 16, Nat.mod_mul, Nat.add_comm]

/-! ## Reading characters back -/

/-- The character with the number that the first digits spell, and what follows these digits. -/
def unquoteDigits (width : Nat) (cs : List Char) : Char × List Char :=
  (Char.ofNat (number 16 (cs.take width)), cs.drop width)

/-- The first character of what stands between two marks, and what follows it. -/
def unquoteChar? : List Char → Option (Char × List Char)
  | '\\' :: 'n' :: cs => some ('\n', cs)
  | '\\' :: 'r' :: cs => some ('\r', cs)
  | '\\' :: 't' :: cs => some ('\t', cs)
  | '\\' :: 'x' :: cs => some (unquoteDigits 2 cs)
  | '\\' :: 'u' :: cs => some (unquoteDigits 4 cs)
  | '\\' :: 'U' :: cs => some (unquoteDigits 8 cs)
  | '\\' :: c :: cs => some (c, cs)
  | c :: cs => some (c, cs)
  | [] => none

theorem unquoteDigits_hexDigits (width : Nat) {c : Char} (h : c.toNat < 16 ^ width)
    (rest : List Char) : unquoteDigits width (hexDigits width c.toNat ++ rest) = (c, rest) := by
  have hlength := length_hexDigits width c.toNat
  rw [unquoteDigits, List.take_left' hlength, List.drop_left' hlength, number_hexDigits,
    Nat.mod_eq_of_lt h, Char.ofNat_toNat]

/-- A character that does not begin an escape stands for itself. -/
theorem unquoteChar?_of_ne {c : Char} (h : c ≠ '\\') (rest : List Char) :
    unquoteChar? (c :: rest) = some (c, rest) := by
  unfold unquoteChar?
  split <;> simp_all

/-- A character is read back, whatever follows it. -/
theorem unquoteChar?_quoteChar {mark : Char} (hmark : mark = '\'' ∨ mark = '"') (c : Char)
    (rest : List Char) : unquoteChar? (quoteChar mark c ++ rest) = some (c, rest) := by
  unfold quoteChar
  split
  · rename_i h
    have hc : c = '\'' ∨ c = '"' ∨ c = '\\' := by
      rcases Bool.or_eq_true_iff.mp h with h | h
      · rw [of_decide_eq_true h]
        exact hmark.imp_right .inl
      · exact .inr (.inr (of_decide_eq_true h))
    rcases hc with rfl | rfl | rfl <;> rfl
  rename_i hplain
  split
  · subst c; rfl
  split
  · subst c; rfl
  split
  · subst c; rfl
  split
  · simp only [Bool.or_eq_true, decide_eq_true_eq, not_or] at hplain
    exact unquoteChar?_of_ne hplain.2 rest
  split
  · rename_i h
    exact congrArg some (unquoteDigits_hexDigits 2 h rest)
  split
  · rename_i h
    exact congrArg some (unquoteDigits_hexDigits 4 h rest)
  · have hvalid := Utf8.toNat_valid c
    exact congrArg some (unquoteDigits_hexDigits 8 (by omega) rest)

/-! ## Quoted forms -/

theorem quoteMark_eq (s : List Char) : quoteMark s = '\'' ∨ quoteMark s = '"' := by
  unfold quoteMark
  split
  · exact .inr rfl
  · exact .inl rfl

theorem flatMap_quoteChar_injective {mark : Char} (hmark : mark = '\'' ∨ mark = '"') :
    Function.Injective fun s : List Char => s.flatMap (quoteChar mark) := by
  intro s
  induction s with
  | nil =>
    intro s' h
    cases s' with
    | nil => rfl
    | cons c' s' =>
      have hread := unquoteChar?_quoteChar hmark c' (s'.flatMap (quoteChar mark))
      rw [← List.flatMap_cons, ← show [] = (c' :: s').flatMap (quoteChar mark) from h] at hread
      exact absurd hread (by simp [unquoteChar?])
  | cons c s ih =>
    intro s' h
    have hread := unquoteChar?_quoteChar hmark c (s.flatMap (quoteChar mark))
    rw [← List.flatMap_cons, show (c :: s).flatMap (quoteChar mark) = _ from h] at hread
    cases s' with
    | nil => exact absurd hread (by simp [unquoteChar?])
    | cons c' s' =>
      simp only [List.flatMap_cons, unquoteChar?_quoteChar hmark, Option.some.injEq,
        Prod.mk.injEq] at hread
      rw [hread.1, ih hread.2.symm]

/-- Different texts have different quoted forms. -/
theorem quote_injective : Function.Injective quote := by
  intro s s' h
  have hchars : quoteChars s.toList = quoteChars s'.toList := String.ofList_injective h
  simp only [quoteChars, List.cons_append, List.cons.injEq] at hchars
  obtain ⟨hmark, hbetween⟩ := hchars
  rw [← hmark] at hbetween
  exact String.toList_injective
    (flatMap_quoteChar_injective (quoteMark_eq s.toList) (List.append_cancel_right hbetween))

/-! ## One line -/

theorem newline_not_mem_hexDigits (width n : Nat) : '\n' ∉ hexDigits width n := by
  have digit : ∀ d < 16, '\n' ≠ hexDigit d := by decide
  induction width generalizing n with
  | zero => exact List.not_mem_nil
  | succ width ih =>
    rw [hexDigits, List.mem_append, List.mem_singleton, not_or]
    exact ⟨ih (n / 16), digit _ (Nat.mod_lt n (by decide))⟩

theorem newline_not_mem_quoteChar {mark : Char} (hmark : mark = '\'' ∨ mark = '"') (c : Char) :
    '\n' ∉ quoteChar mark c := by
  unfold quoteChar
  split
  · rename_i h
    have hc : c = mark ∨ c = '\\' := by simpa using h
    rcases hc with rfl | rfl
    · rcases hmark with rfl | rfl <;> decide
    · decide
  split
  · decide
  split
  · decide
  split
  · decide
  split
  · simpa using Ne.symm ‹c ≠ '\n'›
  split
  · simp [newline_not_mem_hexDigits]
  split
  · simp [newline_not_mem_hexDigits]
  · simp [newline_not_mem_hexDigits]

/-- No text is quoted over several lines. -/
theorem newline_not_mem_quote (s : String) : '\n' ∉ (quote s).toList := by
  have hmark := quoteMark_eq s.toList
  have hne : '\n' ≠ quoteMark s.toList := by rcases hmark with h | h <;> rw [h] <;> decide
  rw [quote, String.toList_ofList, quoteChars, List.mem_append, List.mem_cons, List.mem_flatMap,
    List.mem_singleton]
  rintro ((h | ⟨c, -, h⟩) | h)
  · exact hne h
  · exact newline_not_mem_quoteChar hmark c h
  · exact hne h

end TypedMarkup.Text
