import TypedMarkup.Text.Blank

/-!
# Joined texts

What is joined from pieces that are not empty is empty only if there is no piece
(`join_eq_empty_iff`). So a join of joins that drops the empty ones is one join of all pieces
(`join_joins`): a group without pieces leaves no separator behind.
-/

namespace TypedMarkup.Text

variable {separator : String}

theorem join_eq_intercalate (separator : String) (ps : List String) :
    join separator ps = separator.intercalate ps := by
  fun_induction join separator ps with
  | case1 => rw [String.intercalate_nil]
  | case2 => rw [String.intercalate_singleton]
  | case3 s t rest ih => rw [ih, String.intercalate_cons_cons]

theorem join_append {ps qs : List String} (hp : ps ≠ []) (hq : qs ≠ []) :
    join separator (ps ++ qs) = join separator ps ++ separator ++ join separator qs := by
  simp only [join_eq_intercalate, String.intercalate_append_of_ne_nil hp hq]

/-- Pieces that are not empty leave nothing only if there are none. -/
theorem join_eq_empty_iff {ps : List String} (h : ∀ p ∈ ps, p ≠ "") :
    join separator ps = "" ↔ ps = [] := by
  cases ps with
  | nil => simp [join]
  | cons p ps =>
    have hp : p ≠ "" := h p List.mem_cons_self
    cases ps with
    | nil => simp [join, hp]
    | cons q rest => simp [join, hp]

/-- A join is determined by what its two parts are joined to, if the first is no empty list and the
second has no empty piece. -/
theorem join_append_congr {ps ps' qs qs' : List String} (hp : ps ≠ []) (hp' : ps' ≠ [])
    (hq : ∀ q ∈ qs, q ≠ "") (hq' : ∀ q ∈ qs', q ≠ "")
    (h : join separator ps = join separator ps') (k : join separator qs = join separator qs') :
    join separator (ps ++ qs) = join separator (ps' ++ qs') := by
  -- both second parts are empty lists or neither is, as they are joined to the same text
  have hnil : qs = [] ↔ qs' = [] := by
    rw [← join_eq_empty_iff hq, k, join_eq_empty_iff hq']
  by_cases hqs : qs = []
  · rw [hqs, hnil.mp hqs, List.append_nil, List.append_nil, h]
  · rw [join_append hp hqs, join_append hp' (mt hnil.mpr hqs), h, k]

/-- The joins of several groups of pieces, joined without the empty ones, are the join of all
pieces. -/
theorem join_joins {α : Type} {pieces : α → List String} {groups : List α}
    (h : ∀ g ∈ groups, ∀ p ∈ pieces g, p ≠ "") :
    join separator ((groups.map fun g => join separator (pieces g)).filter fun t => !t.isEmpty) =
      join separator (groups.flatMap pieces) := by
  induction groups with
  | nil => rfl
  | cons g groups ih =>
    obtain ⟨hg, hgroups⟩ := List.forall_mem_cons.mp h
    rw [List.map_cons, List.flatMap_cons]
    by_cases hnil : pieces g = []
    · -- nothing is joined in this group, so it is dropped
      rw [hnil, List.nil_append, ← ih hgroups]
      rfl
    have hkept : (join separator (pieces g)).isEmpty = false := by
      rw [← Bool.not_eq_true, String.isEmpty_iff, join_eq_empty_iff hg]
      exact hnil
    rw [List.filter_cons_of_pos (by rw [hkept]; rfl)]
    refine join_append_congr (List.cons_ne_nil _ []) hnil (fun t ht => ?_) (fun p hp => ?_) rfl
      (ih hgroups)
    · simpa using (List.mem_filter.mp ht).2
    · obtain ⟨g, hg, hp⟩ := List.mem_flatMap.mp hp
      exact hgroups g hg p hp

end TypedMarkup.Text
