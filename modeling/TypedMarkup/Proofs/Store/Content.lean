import TypedMarkup.Proofs.Store.Siblings
import Mathlib.Data.List.Dedup

/-!
# Adding several nodes

What adding a list of nodes to a container leaves, in a store whose links agree. Each node is taken
out of where it is, which may be where an earlier step of the same call has put it, and comes last
(`Moved`). So the last occurrence of a node decides: the nodes end up in the order of their last
occurrences, which is what `List.dedup` keeps, behind the old children that were not among them
(`Gained`).

* `Moved.gained`: one node in front of the others, which is the step of the induction;
* `appendAll_gained`: the whole list, by induction on it;
* `addContent_places`: what holds of the container, of the nodes and of all other lists.
-/

namespace TypedMarkup.Store

variable {s t u : Store} {c p q : NodeId} {nodes : List NodeId}

/-- `t` is `s` with the nodes taken out of every list and put behind the children of `p`, in the
order of their last occurrences. -/
structure Gained (p : NodeId) (nodes : List NodeId) (s t : Store) : Prop where
  linked : Linked t
  body? : ∀ n, t.body? n = s.body? n
  parent? : ∀ x, t.parent? x = if x ∈ nodes then some p else s.parent? x
  children : t.children p = (s.children p).filter (· ∉ nodes) ++ nodes.dedup
  otherChildren : ∀ q, q ≠ p → t.children q = (s.children q).filter (· ∉ nodes)

theorem Gained.refl (hs : Linked s) : Gained p [] s s where
  linked := hs
  body? _ := rfl
  parent? x := (if_neg List.not_mem_nil).symm
  children := by simp
  otherChildren q _ := by simp

/-- Any list but that of the new parent is the old one without the node. -/
theorem Moved.otherList {l : List NodeId} (h : Moved c p l s t) (hs : Linked s) (hq : q ≠ p) :
    t.children q = (s.children q).filter (· != c) := by
  by_cases hold : s.parent? c = some q
  · exact h.oldParent q hq hold
  · rw [h.otherChildren q hq hold, ← hs.erase_eq_filter, hs.erase_of_ne hold]

theorem filter_not_mem_cons (c : NodeId) (nodes l : List NodeId) :
    (l.filter (· != c)).filter (· ∉ nodes) = l.filter (· ∉ c :: nodes) := by
  rw [List.filter_filter]
  refine List.filter_congr fun x _ => ?_
  by_cases hx : x = c <;> simp [hx]

/-- A node that is put behind the children comes to stand in front of those that are added after it,
if it is not among them; else it is taken out once more. -/
theorem Moved.gained (h : Moved c p ((s.children p).filter (· != c) ++ [c]) s t) (hs : Linked s)
    (k : Gained p nodes t u) : Gained p (c :: nodes) s u where
  linked := k.linked
  body? n := (k.body? n).trans (h.body? n)
  parent? x := by
    rw [k.parent?]
    by_cases hx : x = c
    · rw [hx, h.parent?, ite_self, if_pos List.mem_cons_self]
    · simp only [List.mem_cons, hx, false_or, h.otherParents x hx]
  children := by
    rw [k.children, h.children, List.filter_append, filter_not_mem_cons, List.append_assoc]
    refine congrArg _ ?_
    by_cases hc : c ∈ nodes
    · rw [List.dedup_cons_of_mem hc, List.filter_cons_of_neg (by simpa using hc)]
      rfl
    · rw [List.dedup_cons_of_notMem hc, List.filter_cons_of_pos (by simpa using hc)]
      rfl
  otherChildren q hq := by
    rw [k.otherChildren q hq, h.otherList hs hq, filter_not_mem_cons]

/-- Adding the nodes of a list succeeds, by induction on the list: each node is appended to what the
one before has left. -/
theorem appendAll_gained (hs : Linked s) (hp : s.isContainer p = true)
    {content : List (Option NodeId)} (hc : ∀ c, some c ∈ content → c < s.size) :
    ∃ t, s.appendAll p content = ⟨t, none⟩ ∧ Gained p (content.filterMap id) s t := by
  induction content generalizing s with
  | nil => exact ⟨s, rfl, .refl hs⟩
  | cons c content ih =>
    have hrest : ∀ d, some d ∈ content → d < s.size := fun d hd => hc d (List.mem_cons_of_mem _ hd)
    cases c with
    | none => exact ih hs hp hrest
    | some c =>
      obtain ⟨t, ht, hmoved⟩ := appendChild_moved hs hp (hc c List.mem_cons_self)
      have there : ∀ d, some d ∈ content → d < t.size := fun d hd => by
        rw [← isSome_body?_iff, hmoved.body?, isSome_body?_iff]
        exact hrest d hd
      have hpt : t.isContainer p = true := by rw [isContainer_congr (hmoved.body? p), hp]
      obtain ⟨u, hu, hgained⟩ := ih hmoved.linked hpt there
      refine ⟨u, ?_, hmoved.gained hs hgained⟩
      rw [appendAll, ht]
      exact hu

/-! ## Main statement -/

/-- Where the links agree, any list of nodes, with nulls in it, with repetitions, with children of
the container `p` and with nodes from anywhere else, can be added to `p`. The children of `p` are
then the old ones that are not in the list, in their order, and behind them the nodes of the list in
the order of their last occurrences, each of which points to `p`. All other lists have lost these
nodes and nothing else; those that had none of them, and the parents of all other nodes, are as they
were. -/
theorem addContent_places (hs : Linked s) (hp : s.isContainer p = true)
    {content : List (Option NodeId)} (hc : ∀ c, some c ∈ content → c < s.size) :
    ∃ t, s.addContent p content = ⟨t, none⟩ ∧ Linked t ∧
      t.children p =
        (s.children p).filter (some · ∉ content) ++ (content.filterMap id).dedup ∧
      (∀ c, some c ∈ content → t.parent? c = some p ∧ ∀ q, q ≠ p → c ∉ t.children q) ∧
      (∀ q, q ≠ p → t.children q = (s.children q).filter (some · ∉ content)) ∧
      (∀ q, q ≠ p → (∀ c, some c ∈ content → c ∉ s.children q) → t.children q = s.children q) ∧
      (∀ x, some x ∉ content → t.parent? x = s.parent? x) ∧ ∀ n, t.body? n = s.body? n := by
  have hmem {c : NodeId} : c ∈ content.filterMap id ↔ some c ∈ content := by simp
  obtain ⟨t, ht, h⟩ := appendAll_gained hs hp hc
  have hadd : s.addContent p content = ⟨t, none⟩ := by simp [addContent, hp, ht]
  have hother {q : NodeId} (hq : q ≠ p) :
      t.children q = (s.children q).filter (some · ∉ content) := by
    rw [h.otherChildren q hq]
    simp only [hmem]
  refine ⟨t, hadd, h.linked, ?_, fun c hcm => ⟨?_, fun q hq hcq => ?_⟩, fun q hq => hother hq,
    fun q hq hnone => ?_, fun x hx => ?_, h.body?⟩
  · rw [h.children]
    simp only [hmem]
  · rw [h.parent?, if_pos (hmem.mpr hcm)]
  · rw [hother hq] at hcq
    exact absurd hcm (by simpa using (List.mem_filter.mp hcq).2)
  · rw [hother hq]
    exact List.filter_eq_self.mpr fun c hcq => by simpa using fun hcm => hnone c hcm hcq
  · rw [h.parent?, if_neg (mt hmem.mp hx)]

/-- The second entry comes twice, so its last occurrence counts; the text comes from its section,
and the entries that are not in the list stay in front. -/
theorem addContent_places_menu :
    Linked menu ∧ menu.isContainer 0 = true ∧ menu.children 0 = [1, 2, 3] ∧
      menu.children 4 = [5] ∧ ∃ t, menu.addContent 0 [some 2, none, some 5, some 2] = ⟨t, none⟩ ∧
        t.children 0 = [1, 3, 5, 2] ∧ t.children 4 = [] ∧ t.parent? 5 = some 0 := by
  have container : menu.isContainer 0 = true := by decide
  have listed : menu.children 0 = [1, 2, 3] := by decide
  have inside : menu.children 4 = [5] := by decide
  have there : ∀ c, some c ∈ [some 2, none, some 5, some 2] → c < menu.size := by
    intro c hc
    have hcase : c = 2 ∨ c = 5 := by simpa [or_comm] using hc
    rcases hcase with rfl | rfl <;> decide
  obtain ⟨t, ht, -, children, points, others, -⟩ := addContent_places linked_menu container there
  refine ⟨linked_menu, container, listed, inside, t, ht, ?_, ?_, (points 5 (by decide)).1⟩
  · rw [children, listed]
    decide
  · rw [others 4 (by decide), inside]
    decide

end TypedMarkup.Store
