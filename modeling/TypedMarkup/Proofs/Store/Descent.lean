import TypedMarkup.Store.Walk
import TypedMarkup.Proofs.Store.Moves
import Mathlib.Data.Finset.Card
import Mathlib.Logic.Relation

/-!
# Going down

A walk goes down over the lists of children, whatever the nodes say of their parents. Where no node
from `n` down is below itself (`AcyclicFrom`) each step down leaves fewer nodes that list others
(`listing_lt`). So the walk ends, and it never comes to a depth of as many steps as the store has
nodes, where it would be cut off.

* `AcyclicFrom.induction`: what holds of a node as soon as it holds of its children holds of it;
* `eq_of_listing_le`: what is computed down to a depth is the same for all depths that are not too
  small;
* `descendants_eq`, `textContent_of_not_text`, `tree?_of_element`: the recursions, without a depth.
-/

namespace TypedMarkup.Store

variable {s : Store} {n x : NodeId}

/-- The node `n` lists `x` as a child. -/
def Down (s : Store) (n x : NodeId) : Prop :=
  x ∈ s.children n

/-- Going down from `n` over one list or more leads to `x`. -/
def Below (s : Store) (x n : NodeId) : Prop :=
  Relation.TransGen s.Down n x

/-- No node to which going down from `n` leads, `n` itself included, is below itself. -/
def AcyclicFrom (s : Store) (n : NodeId) : Prop :=
  ∀ x, Relation.ReflTransGen s.Down n x → ¬ s.Below x x

/-- Only nodes that own children list any. -/
def ContainersList (s : Store) : Prop :=
  ∀ n x, x ∈ s.children n → s.isContainer n = true

theorem Sound.containersList (hs : Sound s) : ContainersList s :=
  fun _ _ hx => hs.isContainer (hs.parent? hx)

theorem ContainersList.children_eq_nil (hs : ContainersList s) (h : s.isContainer n = false) :
    s.children n = [] :=
  List.eq_nil_iff_forall_not_mem.mpr fun x hx => by
    have := hs n x hx
    simp [h] at this

theorem AcyclicFrom.child (h : AcyclicFrom s n) (hx : x ∈ s.children n) : AcyclicFrom s x :=
  fun _ path => h _ (path.head hx)

theorem children_of_size_le (h : s.size ≤ n) : s.children n = [] := by
  rw [children_eq, getElem?_eq_none (Nat.not_lt.mpr h)]
  rfl

/-! ## Steps that are left -/

open Classical in
/-- The number of nodes that list others, from `n` down. -/
noncomputable def listing (s : Store) (n : NodeId) : Nat :=
  ((Finset.range s.size).filter fun x =>
    Relation.ReflTransGen s.Down n x ∧ s.children x ≠ []).card

theorem listing_le (s : Store) (n : NodeId) : s.listing n ≤ s.size := by
  classical
  exact (Finset.card_filter_le _ _).trans (Finset.card_range s.size).le

/-- A node that lists others is one of those that are counted. -/
theorem children_of_listing_eq_zero (h : s.listing n = 0) : s.children n = [] := by
  classical
  by_contra hne
  have hlt : n < s.size := Nat.lt_of_not_le fun hle => hne (children_of_size_le hle)
  rw [listing, Finset.card_eq_zero, Finset.filter_eq_empty_iff] at h
  exact h (Finset.mem_range.mpr hlt) ⟨.refl, hne⟩

/-- Each step down leaves the node behind. -/
theorem listing_lt (h : AcyclicFrom s n) (hx : x ∈ s.children n) : s.listing x < s.listing n := by
  classical
  have hne : s.children n ≠ [] := List.ne_nil_of_mem hx
  have hlt : n < s.size := Nat.lt_of_not_le fun hle => hne (children_of_size_le hle)
  have subset : (Finset.range s.size).filter (fun y =>
        Relation.ReflTransGen s.Down x y ∧ s.children y ≠ []) ⊆
      (Finset.range s.size).filter fun y =>
        Relation.ReflTransGen s.Down n y ∧ s.children y ≠ [] := by
    intro y hy
    obtain ⟨hy, path, hc⟩ := Finset.mem_filter.mp hy
    exact Finset.mem_filter.mpr ⟨hy, path.head hx, hc⟩
  refine Finset.card_lt_card ((Finset.ssubset_iff_of_subset subset).mpr ⟨n, ?_, ?_⟩)
  · exact Finset.mem_filter.mpr ⟨Finset.mem_range.mpr hlt, .refl, hne⟩
  · -- going down from the child does not lead back
    intro hmem
    exact h n .refl (.head' hx (Finset.mem_filter.mp hmem).2.1)

/-- Induction from the children to the node. -/
@[elab_as_elim]
theorem AcyclicFrom.induction {motive : (n : NodeId) → AcyclicFrom s n → Prop}
    (step : ∀ n (h : AcyclicFrom s n), (∀ x (hx : x ∈ s.children n), motive x (h.child hx)) →
      motive n h) (h : AcyclicFrom s n) : motive n h := by
  generalize hk : s.listing n = k
  induction k using Nat.strongRecOn generalizing n with
  | _ k ih =>
    refine step n h fun x hx => ih _ ?_ (h.child hx) rfl
    rw [← hk]
    exact listing_lt h hx

/-- What is computed down to a depth, for a node from what is computed for its children, is the same
for all depths that leave a step for each node that lists others. -/
theorem eq_of_listing_le {α : Type} {f : Nat → NodeId → α}
    (leaf : ∀ n depth, s.children n = [] → f (depth + 1) n = f 0 n)
    (step : ∀ n d d', (∀ x ∈ s.children n, f d x = f d' x) → f (d + 1) n = f (d' + 1) n)
    (h : AcyclicFrom s n) {d d' : Nat} (hd : s.listing n ≤ d) (hd' : s.listing n ≤ d') :
    f d n = f d' n := by
  induction d generalizing n d' with
  | zero =>
    have hnil := children_of_listing_eq_zero (Nat.le_zero.mp hd)
    cases d' with
    | zero => rfl
    | succ d' => exact (leaf n d' hnil).symm
  | succ d ih =>
    cases d' with
    | zero => exact leaf n d (children_of_listing_eq_zero (Nat.le_zero.mp hd'))
    | succ d' =>
      refine step n d d' fun x hx => ih (h.child hx) ?_ ?_
      · exact Nat.le_of_lt_succ (Nat.lt_of_lt_of_le (listing_lt h hx) hd)
      · exact Nat.le_of_lt_succ (Nat.lt_of_lt_of_le (listing_lt h hx) hd')

/-! ## The recursions without a depth -/

/-- The nodes below a node are its children, each with the nodes below it. -/
theorem descendants_eq (h : AcyclicFrom s n) :
    s.descendants n = (s.children n).flatMap fun x => x :: s.descendants x := by
  have same : s.descendantsTo s.size n = s.descendantsTo (s.size + 1) n := by
    refine eq_of_listing_le (fun n depth hn => ?_) (fun n d d' hx => ?_) h (listing_le s n)
      (Nat.le_succ_of_le (listing_le s n))
    · simp only [descendantsTo, hn, List.flatMap_nil]
    · rw [descendantsTo, descendantsTo]
      exact List.flatMap_congr fun x hm => by rw [hx x hm]
  exact same

/-- The text of a text node is its data. -/
theorem textContent_of_text {data : String} (h : s.body? n = some (.text data)) :
    s.textContent n = data := by
  unfold textContent textTo
  cases s.size <;> simp only [h]

theorem textTo_succ_of_not_text (h : ∀ data, s.body? n ≠ some (.text data)) (depth : Nat) :
    s.textTo (depth + 1) n =
      Text.join " " (((s.children n).map (s.textTo depth)).filter fun part => !part.isEmpty) := by
  rw [textTo]
  split
  · exact absurd ‹_› (h _)
  · rfl

/-- The text of another node is that of its children, without the empty ones. -/
theorem textContent_of_not_text (acyclic : AcyclicFrom s n)
    (h : ∀ data, s.body? n ≠ some (.text data)) :
    s.textContent n =
      Text.join " " (((s.children n).map s.textContent).filter fun part => !part.isEmpty) := by
  have same : s.textTo s.size n = s.textTo (s.size + 1) n := by
    refine eq_of_listing_le (fun n depth hn => ?_) (fun n d d' hx => ?_) acyclic (listing_le s n)
      (Nat.le_succ_of_le (listing_le s n))
    · unfold textTo
      split
      · rfl
      · rw [hn]; rfl
    · unfold textTo
      split
      · rfl
      · rw [List.map_congr_left hx]
  rw [textContent, same, textTo_succ_of_not_text h]
  rfl

/-- The tree of an element has the trees of its children below it. -/
theorem tree?_of_element (acyclic : AcyclicFrom s n) {type : ElementType} {tag : String}
    {attributes : Attributes} (h : s.body? n = some (.element type tag attributes)) :
    s.tree? n =
      some (.element type tag attributes.pairs ((s.children n).filterMap s.tree?)) := by
  have same : s.treeTo s.size n = s.treeTo (s.size + 1) n := by
    refine eq_of_listing_le (fun n depth hn => ?_) (fun n d d' hx => ?_) acyclic (listing_le s n)
      (Nat.le_succ_of_le (listing_le s n))
    · unfold treeTo
      rw [hn]
      rfl
    · have hbelow : (s.children n).filterMap (fun c => s.treeTo d c) =
          (s.children n).filterMap fun c => s.treeTo d' c := List.filterMap_congr hx
      unfold treeTo
      simp only [hbelow]
  rw [tree?, same, treeTo]
  simp only [h]
  rfl

end TypedMarkup.Store
