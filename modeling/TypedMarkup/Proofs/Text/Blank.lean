import TypedMarkup.Text.Blank
import Mathlib.Data.List.TakeWhile

/-!
# What stripping and splitting leave

`strip` leaves nothing exactly of texts that are all blank (`strip_isEmpty_iff`), and what it leaves
neither begins nor ends with a blank (`strip_head`, `strip_getLast`); a second time it takes nothing
off (`strip_strip`). A text that is split at a separator splits like its two parts at any one of them
(`splitChars_append`), and is one piece if there is none (`splitChars_of_not_mem`).
-/

namespace TypedMarkup.Text

/-! ## Stripping -/

theorem trimEnd_eq_nil_iff {cs : List Char} : trimEnd cs = [] ↔ ∀ c ∈ cs, isBlank c = true := by
  rw [trimEnd, List.reverse_eq_nil_iff, List.dropWhile_eq_nil_iff]
  simp only [List.mem_reverse]

/-- Without its end a text begins as it did. -/
theorem trimEnd_prefix (cs : List Char) : trimEnd cs <+: cs := by
  have h := @List.dropWhile_suffix _ cs.reverse isBlank
  rw [← List.reverse_prefix, List.reverse_reverse] at h
  exact h

theorem not_isBlank_head_dropWhile {cs : List Char} {c : Char}
    (h : (cs.dropWhile isBlank).head? = some c) : isBlank c = false := by
  have := List.head?_dropWhile_not isBlank cs
  rw [h] at this
  simpa using this

theorem stripChars_eq_nil_iff {cs : List Char} :
    stripChars cs = [] ↔ ∀ c ∈ cs, isBlank c = true := by
  rw [stripChars, trimEnd_eq_nil_iff]
  constructor
  · intro h
    -- if something were left it would begin with a character that is not blank
    refine List.dropWhile_eq_nil_iff.mp (Decidable.byContradiction fun hne => ?_)
    obtain ⟨c, rest, hc⟩ := List.exists_cons_of_ne_nil hne
    have hb := h c (by rw [trimStart, hc]; exact List.mem_cons_self)
    rw [not_isBlank_head_dropWhile (by rw [hc]; rfl)] at hb
    exact Bool.false_ne_true hb
  · exact fun h c hc => h c ((List.dropWhile_sublist isBlank).mem hc)

theorem strip_isEmpty_iff {s : String} :
    (strip s).isEmpty = true ↔ ∀ c ∈ s.toList, isBlank c = true := by
  rw [String.isEmpty_iff, ← String.toList_eq_nil_iff, strip, String.toList_ofList,
    stripChars_eq_nil_iff]

/-- A stripped text begins with no blank. -/
theorem strip_head {s : String} {c : Char} (h : (strip s).toList.head? = some c) :
    isBlank c = false := by
  rw [strip, String.toList_ofList, stripChars] at h
  obtain ⟨rest, hr⟩ := List.head?_eq_some_iff.mp h
  obtain ⟨tail, ht⟩ := trimEnd_prefix (trimStart s.toList)
  have hs : s.toList.dropWhile isBlank = c :: (rest ++ tail) := by
    rw [← List.cons_append, ← hr, ht, trimStart]
  exact not_isBlank_head_dropWhile (by rw [hs]; rfl)

/-- A stripped text ends with no blank. -/
theorem strip_getLast {s : String} {c : Char} (h : (strip s).toList.getLast? = some c) :
    isBlank c = false := by
  rw [strip, String.toList_ofList, stripChars, trimEnd, List.getLast?_reverse] at h
  exact not_isBlank_head_dropWhile h

theorem dropWhile_isBlank_of_head {cs : List Char}
    (h : ∀ c, cs.head? = some c → isBlank c = false) : cs.dropWhile isBlank = cs := by
  cases cs with
  | nil => rfl
  | cons c cs => rw [List.dropWhile_cons_of_neg (by rw [h c rfl]; exact Bool.false_ne_true)]

/-- Stripping twice takes no more off than stripping once. -/
@[simp] theorem strip_strip (s : String) : strip (strip s) = strip s := by
  have hstart : trimStart (strip s).toList = (strip s).toList :=
    dropWhile_isBlank_of_head fun _ => strip_head
  have hend : trimEnd (strip s).toList = (strip s).toList := by
    rw [trimEnd, dropWhile_isBlank_of_head fun c hc => strip_getLast (by
      rwa [List.head?_reverse] at hc), List.reverse_reverse]
  rw [strip, stripChars, hstart, hend, String.ofList_toList]

/-! ## Splitting at a separator -/

/-- There is always a piece, if only an empty one. -/
theorem splitChars_ne_nil (separator : Char) (cs : List Char) : splitChars separator cs ≠ [] := by
  cases cs with
  | nil => exact List.cons_ne_nil _ _
  | cons c cs => rw [splitChars]; split <;> (try split) <;> exact List.cons_ne_nil _ _

theorem splitChars_append (separator : Char) (as bs : List Char) :
    splitChars separator (as ++ separator :: bs) =
      splitChars separator as ++ splitChars separator bs := by
  induction as with
  | nil =>
    obtain ⟨part, parts, h⟩ := List.exists_cons_of_ne_nil (splitChars_ne_nil separator bs)
    simp [splitChars, h]
  | cons c as ih =>
    obtain ⟨part, parts, h⟩ := List.exists_cons_of_ne_nil (splitChars_ne_nil separator as)
    rw [List.cons_append, splitChars, splitChars, ih, h]
    simp only [List.cons_append]
    split <;> rfl

theorem splitChars_of_not_mem {separator : Char} {cs : List Char} (h : separator ∉ cs) :
    splitChars separator cs = [cs] := by
  induction cs with
  | nil => rfl
  | cons c cs ih =>
    rw [List.mem_cons, not_or] at h
    rw [splitChars, ih h.2]
    simp [Ne.symm h.1]

end TypedMarkup.Text
