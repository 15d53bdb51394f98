import TypedMarkup.Text.Case

/-!
# Small letters are stable

`lower_lower`: a text in small letters stays as it is when it is put in small letters again. The
table of small forms is checked run against run (`lowerRuns_avoid`): the image of a run meets no
run, so that the small form of a character is mapped no further. What is left is the capital sigma,
which is no small form, and the dotted capital `İ`, which is none either.
-/

namespace TypedMarkup.Text

namespace CaseRun

/-- The image of a code point under a run. -/
def image (r : CaseRun) (n : Nat) : Nat :=
  ((n : Int) + r.offset).toNat

/-- No code point in the image of the run `r` is one that the run `q` maps: the image lies before or
behind `q`, or between the code points of `q`, which are every second one. -/
def Avoids (r q : CaseRun) : Bool :=
  (r.image r.last).blt q.first || q.last.blt (r.image r.first) ||
    (q.step == 2 && (r.step == 2 || r.first == r.last) && (r.image r.first + q.first) % 2 == 1)

/-- Whether the image of a run has characters only. -/
def HasChars (r : CaseRun) : Bool :=
  0 ≤ r.first + r.offset && ((r.image r.last).blt 0xD800 ||
    (Nat.blt 0xDFFF (r.image r.first) && (r.image r.last).blt 0x110000))

end CaseRun

/-- The run of the dotted capital `İ`, whose small form has two characters. -/
def dottedCapital : CaseRun :=
  ⟨0x130, 0x130, 1, 0⟩

theorem lowerRuns_hasChars : lowerRuns.all CaseRun.HasChars = true := by
  decide +kernel

/-- Checked run against run. -/
theorem lowerRuns_avoid :
    (lowerRuns.all fun r => (dottedCapital :: lowerRuns).all r.Avoids) = true := by
  decide +kernel

namespace CaseRun

variable {r q : CaseRun} {n : Nat}

theorem bounds (h : r.Maps n = true) : r.first ≤ n ∧ n ≤ r.last ∧ (n - r.first) % r.step = 0 := by
  simpa [Maps, and_assoc] using h

theorem isValidChar_image (hr : r.HasChars = true) (h : r.Maps n = true) :
    (r.image n).isValidChar := by
  obtain ⟨hf, hl, -⟩ := bounds h
  simp only [HasChars, Bool.and_eq_true, Bool.or_eq_true, decide_eq_true_eq, Nat.blt_eq] at hr
  simp only [Nat.isValidChar, image] at hr ⊢
  omega

theorem not_maps_image (hr : r.HasChars = true) (ha : r.Avoids q = true) (h : r.Maps n = true) :
    q.Maps (r.image n) = false := by
  obtain ⟨hf, hl, hm⟩ := bounds h
  refine Bool.eq_false_iff.mpr fun hq => ?_
  obtain ⟨hqf, hql, hqm⟩ := bounds hq
  simp only [HasChars, Bool.and_eq_true, decide_eq_true_eq] at hr
  simp only [Avoids, Bool.or_eq_true, Bool.and_eq_true, beq_iff_eq, Nat.blt_eq] at ha
  simp only [image] at ha hqf hql hqm
  rcases ha with (before | behind) | ⟨⟨hq2, hr2⟩, odd⟩
  · omega
  · omega
  · -- the image and `q` are of different parity
    rw [hq2] at hqm
    rcases hr2 with hr2 | hr2
    · rw [hr2] at hm; omega
    · omega

end CaseRun

/-- The small form of a mapped character is a character that is mapped no further. -/
theorem mapByRuns_lowerRuns {n m : Nat} (h : mapByRuns lowerRuns n = some m) :
    m.isValidChar ∧ m ≠ 0x130 ∧ mapByRuns lowerRuns m = none := by
  obtain ⟨r, hr, rfl⟩ := Option.map_eq_some_iff.mp h
  have hmem := List.mem_of_find?_eq_some hr
  have hmaps : r.Maps n = true := by simpa using List.find?_some hr
  have hc := List.all_eq_true.mp lowerRuns_hasChars r hmem
  have havoid := List.all_eq_true.mp (List.all_eq_true.mp lowerRuns_avoid r hmem)
  refine ⟨r.isValidChar_image hc hmaps, fun e => ?_, ?_⟩
  · have hd := r.not_maps_image hc (havoid _ List.mem_cons_self) hmaps
    rw [CaseRun.image, e] at hd
    exact absurd hd (by decide)
  · refine Option.map_eq_none_iff.mpr (List.find?_eq_none.mpr fun q hq => ?_)
    rw [Bool.not_eq_true]
    exact r.not_maps_image hc (havoid q (List.mem_cons_of_mem _ hq)) hmaps

theorem toNat_ofNat {n : Nat} (h : n.isValidChar) : (Char.ofNat n).toNat = n := by
  rw [Char.ofNat, dif_pos h]
  rfl

/-! ## Small characters -/

/-- A character that is its own small form in every word. -/
def IsSmall (c : Char) : Prop :=
  lowerChar c = [c] ∧ c ≠ 'Σ'

theorem isSmall_of_mapByRuns {c : Char} (hd : c.toNat ≠ 0x130)
    (h : mapByRuns lowerRuns c.toNat = none) : IsSmall c := by
  refine ⟨by simp only [lowerChar, if_neg hd, h], fun e => ?_⟩
  rw [e] at h
  exact absurd h (by decide)

theorem isSmall_of_mem_lowerChar {c d : Char} (h : d ∈ lowerChar c) : IsSmall d := by
  unfold lowerChar at h
  split at h
  · rcases List.mem_cons.mp h with rfl | h
    · exact isSmall_of_mapByRuns (by decide) (by decide)
    · rw [List.mem_singleton.mp h]
      exact isSmall_of_mapByRuns (by decide) (by decide)
  · split at h
    · rename_i hm
      obtain ⟨hv, hd, hn⟩ := mapByRuns_lowerRuns hm
      rw [List.mem_singleton.mp h]
      refine isSmall_of_mapByRuns ?_ ?_ <;> rwa [toNat_ofNat hv]
    · rename_i hd _ hn
      rw [List.mem_singleton.mp h]
      exact isSmall_of_mapByRuns hd hn

theorem isSmall_lowerSigma (before after : List Char) : IsSmall (lowerSigma before after) := by
  unfold lowerSigma
  split <;> exact isSmall_of_mapByRuns (by decide) (by decide)

theorem isSmall_of_mem_lowerAfter {d : Char} {before cs : List Char}
    (h : d ∈ lowerAfter before cs) : IsSmall d := by
  induction cs generalizing before with
  | nil => simp [lowerAfter] at h
  | cons c cs ih =>
    rcases List.mem_append.mp h with h | h
    · split at h
      · rw [List.mem_singleton.mp h]; exact isSmall_lowerSigma ..
      · exact isSmall_of_mem_lowerChar h
    · exact ih h

theorem lowerAfter_of_isSmall (before : List Char) {cs : List Char} (h : ∀ c ∈ cs, IsSmall c) :
    lowerAfter before cs = cs := by
  induction cs generalizing before with
  | nil => rfl
  | cons c cs ih =>
    obtain ⟨hc, hs⟩ := h c List.mem_cons_self
    rw [lowerAfter, if_neg hs, hc, ih _ fun d hd => h d (List.mem_cons_of_mem _ hd)]
    rfl

/-- Small letters are stable. -/
@[simp] theorem lower_lower (s : String) : lower (lower s) = lower s := by
  simp only [lower, String.toList_ofList]
  rw [lowerAfter_of_isSmall _ fun c hc => isSmall_of_mem_lowerAfter hc]

/-- Only the empty text has an empty small form. -/
@[simp] theorem lower_isEmpty (s : String) : (lower s).isEmpty = s.isEmpty := by
  rw [Bool.eq_iff_iff, String.isEmpty_iff, String.isEmpty_iff, lower, ← String.toList_eq_nil_iff,
    String.toList_ofList, ← String.toList_eq_nil_iff]
  cases s.toList with
  | nil => rfl
  | cons c cs =>
    have hc : lowerChar c ≠ [] := by
      unfold lowerChar
      repeat' split
      all_goals simp
    simp only [lowerAfter, List.append_eq_nil_iff, reduceCtorEq, iff_false, not_and]
    split
    · simp
    · exact fun h => absurd h hc

end TypedMarkup.Text
