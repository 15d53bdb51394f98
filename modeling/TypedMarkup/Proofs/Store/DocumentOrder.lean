import TypedMarkup.Proofs.Store.Descent
import TypedMarkup.Proofs.Store.Forest
import Mathlib.Data.List.Nodup

/-!
# Document order

The nodes below a node in the order in which a walk comes to them. `Walks` is the walk itself, which
enters each node that owns children; it has no depth, so it ends only where it comes to a last node.

* `walks_iff`: where no node is below itself the walk ends, and `descendants` lists what it comes to;
* `mem_descendants_iff`, `nodup_descendants`: in a forest these are the nodes below the node, each
  once;
* `block_infix`, `children_sublist`: every block of a node and the nodes below it stands together,
  and the children of a node come in their order;
* `descendants_in_order`: all of this for forests, with the elements that a tag selects.
-/

namespace TypedMarkup.Store

/-! ## Walks -/

/-- A walk over the nodes `ns` and what is below them comes to the nodes `ds` and ends: it comes to
each node of `ns` and, if this owns children, to what is below it before it goes on. -/
inductive Walks (s : Store) : (ns ds : List NodeId) → Prop where
  | done : Walks s [] []
  | enter {n : NodeId} {ns below rest : List NodeId} : s.isContainer n = true →
      Walks s (s.children n) below → Walks s ns rest → Walks s (n :: ns) (n :: below ++ rest)
  | pass {n : NodeId} {ns rest : List NodeId} : s.isContainer n = false →
      Walks s ns rest → Walks s (n :: ns) (n :: rest)

variable {s : Store} {n x c : NodeId} {ns ds es : List NodeId}

theorem Walks.unique (h : Walks s ns ds) (k : Walks s ns es) : ds = es := by
  induction h generalizing es with
  | done => cases k; rfl
  | enter hn _ _ ihbelow ihrest =>
    cases k with
    | enter _ below rest => rw [ihbelow below, ihrest rest]
    | pass hn' _ => simp [hn] at hn'
  | pass hn _ ih =>
    cases k with
    | enter hn' _ _ => simp [hn] at hn'
    | pass _ rest => rw [ih rest]

/-- Walks below each node of a list make up a walk over the list. -/
theorem walks_flatMap (hs : ContainersList s) {below : NodeId → List NodeId}
    (h : ∀ n ∈ ns, Walks s (s.children n) (below n)) :
    Walks s ns (ns.flatMap fun n => n :: below n) := by
  induction ns with
  | nil => exact .done
  | cons n ns ih =>
    obtain ⟨hn, hns⟩ := List.forall_mem_cons.mp h
    rw [List.flatMap_cons]
    cases hc : s.isContainer n with
    | true => exact .enter hc hn (ih hns)
    | false =>
      have hnone : below n = [] := by
        rw [hs.children_eq_nil hc] at hn
        exact hn.unique .done
      rw [hnone]
      exact .pass hc (ih hns)

/-- The walk below a node ends, and comes to the nodes that are listed. -/
theorem walks_iff (hs : ContainersList s) (h : AcyclicFrom s n) :
    Walks s (s.children n) ds ↔ ds = s.descendants n := by
  have ends : Walks s (s.children n) (s.descendants n) := by
    induction h using AcyclicFrom.induction with
    | step n h ih =>
      rw [descendants_eq h]
      exact walks_flatMap hs ih
  exact ⟨fun walk => walk.unique ends, fun e => e ▸ ends⟩

/-! ## The nodes of a walk -/

theorem below_iff : s.Below x n ↔ ∃ c ∈ s.children n, x = c ∨ s.Below x c := by
  simp only [Below, ← Relation.reflTransGen_iff_eq_or_transGen]
  exact Relation.TransGen.head'_iff

theorem mem_descendants_iff (h : AcyclicFrom s n) : x ∈ s.descendants n ↔ s.Below x n := by
  induction h using AcyclicFrom.induction with
  | step n h ih =>
    rw [descendants_eq h, List.mem_flatMap, below_iff]
    refine exists_congr fun c => and_congr_right fun hc => ?_
    rw [List.mem_cons, ih c hc]

/-- The block of a child stands together. -/
theorem child_block_infix (h : AcyclicFrom s n) (hc : c ∈ s.children n) :
    (c :: s.descendants c) <:+: s.descendants n := by
  rw [descendants_eq h]
  exact List.infix_flatMap_of_mem hc fun x => x :: s.descendants x

/-- So does that of any node below, by induction on the way down to it. -/
theorem block_infix (h : AcyclicFrom s n) (hx : s.Below x n) :
    (x :: s.descendants x) <:+: s.descendants n := by
  induction hx with
  | single hx => exact child_block_infix h hx
  | @tail y x path hx ih =>
    have block := child_block_infix (fun z => h z ∘ path.to_reflTransGen.trans) hx
    exact (block.trans (List.infix_cons (List.infix_rfl))).trans ih

theorem children_sublist (h : AcyclicFrom s n) : (s.children n).Sublist (s.descendants n) := by
  rw [descendants_eq h]
  induction s.children n with
  | nil => exact .slnil
  | cons c cs ih =>
    rw [List.flatMap_cons, List.cons_append]
    exact (ih.trans (List.sublist_append_right ..)).cons_cons c

/-! ## Forests -/

/-- Where the links agree, a node is below its ancestors. -/
theorem Linked.below_iff (hs : Linked s) : s.Below x n ↔ s.Ancestor n x := by
  have down : s.Down = Function.swap s.Up := by
    funext n x
    exact propext (hs.mem_children_iff x n)
  rw [Below, Ancestor, down, Relation.transGen_swap]

theorem IsForest.acyclicFrom (hs : IsForest s) (n : NodeId) : AcyclicFrom s n :=
  fun x _ hx => hs.acyclic x (hs.linked.below_iff.mp hx)

/-- Of two nodes with a common node at or below them, one is at or above the other. -/
theorem upTo_total {a b : NodeId} (ha : s.UpTo x a) (hb : s.UpTo x b) :
    s.UpTo a b ∨ s.UpTo b a :=
  Relation.ReflTransGen.total_of_right_unique
    (fun _ _ _ h k => Option.some.inj (h.symm.trans k)) ha hb

/-- No child of a node is at or above another one. -/
theorem IsForest.not_upTo_sibling (hs : IsForest s) {a b : NodeId} (ha : a ∈ s.children n)
    (hb : b ∈ s.children n) (hne : a ≠ b) : ¬ s.UpTo a b := fun hab => by
  have hup : s.parent? a = some n := (hs.mem_children_iff a n).mp ha
  obtain rfl | hanc := upTo_iff.mp hab
  · exact hne rfl
  · obtain ⟨q, hq, hqb⟩ := ancestor_iff.mp hanc
    obtain rfl : n = q := Option.some.inj (hup.symm.trans hq)
    -- going up leads from the parent to its child and so back to the parent
    exact hs.acyclic n (.tail' (upTo_iff.mpr hqb) ((hs.mem_children_iff b n).mp hb))

/-- The blocks of different children share no node. -/
theorem IsForest.disjoint_blocks (hs : IsForest s) {a b : NodeId} (ha : a ∈ s.children n)
    (hb : b ∈ s.children n) (hne : a ≠ b) :
    List.Disjoint (a :: s.descendants a) (b :: s.descendants b) := by
  have up {c x : NodeId} (hx : x ∈ c :: s.descendants c) : s.UpTo x c := by
    rw [List.mem_cons, mem_descendants_iff (hs.acyclicFrom c), hs.linked.below_iff] at hx
    exact upTo_iff.mpr (hx.imp_left Eq.symm)
  intro x hxa hxb
  rcases upTo_total (up hxa) (up hxb) with hab | hba
  · exact hs.not_upTo_sibling ha hb hne hab
  · exact hs.not_upTo_sibling hb ha hne.symm hba

/-- No node comes twice: not within the block of a child, and not in two of them. -/
theorem IsForest.nodup_descendants (hs : IsForest s) (n : NodeId) : (s.descendants n).Nodup := by
  induction hs.acyclicFrom n using AcyclicFrom.induction with
  | step n h ih =>
    rw [descendants_eq h, List.nodup_flatMap]
    refine ⟨fun c hc => List.nodup_cons.mpr ⟨fun hm => ?_, ih c hc⟩, ?_⟩
    · rw [mem_descendants_iff (h.child hc)] at hm
      exact h.child hc c .refl hm
    · exact (hs.nodup n).imp_of_mem fun ha hb hne => hs.disjoint_blocks ha hb hne

/-! ## Elements with a tag -/

theorem isElement_iff : s.isElement x = true ↔
    ∃ type tag as, s.body? x = some (.element type tag as) := by
  unfold isElement
  split
  · simp [*]
  · rename_i h
    exact iff_of_false Bool.false_ne_true fun ⟨type, tag, as, hx⟩ => h type tag as hx

theorem hasTag_iff {tag : String} : s.hasTag tag x = true ↔
    ∃ type as, s.body? x = some (.element type tag as) := by
  unfold hasTag
  split
  · rename_i type t as hx
    simp [hx]
  · rename_i h
    exact iff_of_false Bool.false_ne_true fun ⟨type, as, hx⟩ => h type tag as hx

/-- The elements that a tag selects: those with this tag in small letters, and all for `*`. -/
theorem mem_elementsByTag {tag : String} : x ∈ s.elementsByTag n tag ↔ x ∈ s.descendants n ∧
    ∃ type t as, s.body? x = some (.element type t as) ∧ (tag = "*" ∨ t = Text.lower tag) := by
  rw [elementsByTag, List.mem_filter, Bool.and_eq_true, Bool.or_eq_true, beq_iff_eq, isElement_iff,
    hasTag_iff]
  refine and_congr_right fun _ => ⟨?_, ?_⟩
  · rintro ⟨⟨type, t, as, hx⟩, hall | ⟨type', as', hx'⟩⟩
    · exact ⟨type, t, as, hx, .inl hall⟩
    · exact ⟨type', _, as', hx', .inr rfl⟩
  · rintro ⟨type, t, as, hx, hall | rfl⟩
    · exact ⟨⟨type, t, as, hx⟩, .inl hall⟩
    · exact ⟨⟨type, _, as, hx⟩, .inr ⟨type, as, hx⟩⟩

/-! ## Main statement -/

/-- In a forest, below any node `c`: the walk ends, and `descendants` lists what it comes to; these
are the nodes that have `c` as an ancestor, each once; each of them is followed at once by the nodes
below it, and the children of every node come in their order. What a tag selects is this list
without the nodes that are no element with this tag in small letters, or no element at all for
`*`. -/
theorem descendants_in_order (hs : IsForest s) (c : NodeId) :
    (∀ ds, Walks s (s.children c) ds ↔ ds = s.descendants c) ∧
    (∀ x, x ∈ s.descendants c ↔ s.Ancestor c x) ∧
    (s.descendants c).Nodup ∧
    (∀ x, s.Ancestor c x → (x :: s.descendants x) <:+: s.descendants c) ∧
    (∀ p, s.UpTo p c → (s.children p).Sublist (s.descendants c)) ∧
    ∀ tag, (s.elementsByTag c tag).Sublist (s.descendants c) ∧
      ∀ x, x ∈ s.elementsByTag c tag ↔ s.Ancestor c x ∧
        ∃ type t as, s.body? x = some (.element type t as) ∧ (tag = "*" ∨ t = Text.lower tag) := by
  have acyclic := hs.acyclicFrom
  have below {x : NodeId} : s.Below x c ↔ s.Ancestor c x := hs.linked.below_iff
  have listed {x : NodeId} : x ∈ s.descendants c ↔ s.Ancestor c x :=
    (mem_descendants_iff (acyclic c)).trans below
  refine ⟨fun ds => walks_iff hs.sound.containersList (acyclic c), fun x => listed,
    hs.nodup_descendants c, fun x hx => block_infix (acyclic c) (below.mpr hx), fun p hp => ?_,
    fun tag => ⟨List.filter_sublist, fun x => ?_⟩⟩
  · obtain rfl | hp := upTo_iff.mp hp
    · exact children_sublist (acyclic c)
    · -- the list of a node below stands in its block
      have block := block_infix (acyclic c) (below.mpr hp)
      exact ((children_sublist (acyclic p)).cons p).trans block.sublist
  · rw [mem_elementsByTag, listed]

/-- A division, a section, a text, a paragraph, a line break and a paragraph, none of them linked. -/
def pieces : Store :=
  let paragraph := Body.element (.standard .blockContainer) "p" []
  let s := (empty.create (.element (.standard .blockContainer) "div" [])).2
  let s := (s.create (.element (.standard .blockContainer) "section" [])).2
  let s := ((s.create (.text "x")).2.create paragraph).2
  ((s.create (.element (.standard .inlineVoid) "br" [])).2.create paragraph).2

/-- The line break in the first paragraph, the second one and the text in the section, and the first
paragraph and the section in the division. -/
def leaflet : Store :=
  let s := ((pieces.appendChild 3 4).store.appendChild 1 5).store
  let s := ((s.appendChild 1 2).store.appendChild 0 3).store
  (s.appendChild 0 1).store

theorem isForest_leaflet : IsForest leaflet := by
  have created : IsForest pieces :=
    (((((isForest_empty.create _).create _).create _).create _).create _).create _
  have first := created.appendChild_root (p := 3) (c := 4) (by decide) (by decide) (by decide)
    (by decide)
  have second := first.appendChild_root (p := 1) (c := 5) (by decide) (by decide) (by decide)
    (by decide)
  have third := second.appendChild_root (p := 1) (c := 2) (by decide) (by decide) (by decide)
    (by decide)
  have fourth := third.appendChild_root (p := 0) (c := 3) (by decide) (by decide) (by decide)
    (by decide)
  exact fourth.appendChild_root (by decide) (by decide) (by decide) (by decide)

/-- The numbers of the nodes say nothing of their order: the division has the first paragraph with
its line break below it, and then the section with the second paragraph and the text. -/
theorem descendants_in_order_leaflet :
    IsForest leaflet ∧ leaflet.descendants 0 = [3, 4, 1, 5, 2] ∧
      Walks leaflet (leaflet.children 0) [3, 4, 1, 5, 2] ∧ leaflet.Ancestor 0 2 ∧
      (1 :: leaflet.descendants 1) <:+: [3, 4, 1, 5, 2] ∧ 5 ∈ leaflet.elementsByTag 0 "P" ∧
      2 ∉ leaflet.elementsByTag 0 "*" := by
  have order : leaflet.descendants 0 = [3, 4, 1, 5, 2] := by decide
  obtain ⟨walks, members, -, blocks, -, tags⟩ := descendants_in_order isForest_leaflet 0
  have above {x : NodeId} (hx : x ∈ [3, 4, 1, 5, 2]) : leaflet.Ancestor 0 x :=
    (members x).mp (by rwa [order])
  refine ⟨isForest_leaflet, order, (walks _).mpr order.symm, above (by decide), ?_,
    ((tags "P").2 5).mpr ⟨above (by decide), _, _, _, rfl, .inr (by decide +kernel)⟩, fun h => ?_⟩
  · rw [← order]
    exact blocks 1 (above (by decide))
  · obtain ⟨-, type, t, as, hx, -⟩ := ((tags "*").2 2).mp h
    have text : leaflet.body? 2 = some (.text "x") := rfl
    simp [text] at hx

end TypedMarkup.Store
