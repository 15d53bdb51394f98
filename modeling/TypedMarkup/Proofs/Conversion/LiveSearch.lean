import TypedMarkup.Proofs.Conversion.Live

/-!
# Live searches

A live search converts one element after the other in the same store. Each conversion makes a tree
of nodes with higher numbers than all before it, and later ones leave it as it is: the nodes below
its root stay among its own (`mem_descendants_of_closed`). So the trees that a search gathers share
no node, not even when one element stands in the other and is converted again in it.

* `Gathered`: what is there after a search, with `Gathered.cons` and `Gathered.skip` for one more
  element in front of it;
* `liveInstances_exec`: the run of a search, by induction on the elements.
-/

namespace TypedMarkup

/-! ## Nodes below a node -/

namespace Store

variable {s t u : Store}

/-- Where the children of the nodes from number `lo` on to below `hi` are such nodes, so are all
nodes below them. -/
theorem mem_descendantsTo_of_closed {lo hi : NodeId}
    (closed : ∀ p, lo ≤ p → p < hi → ∀ x ∈ t.children p, lo ≤ x ∧ x < hi) (depth : Nat) :
    ∀ n, lo ≤ n → n < hi → ∀ x ∈ t.descendantsTo depth n, lo ≤ x ∧ x < hi := by
  induction depth with
  | zero => exact fun _ _ _ _ hx => absurd hx List.not_mem_nil
  | succ depth ih =>
    intro n hn hlt x hx
    rw [descendantsTo, List.mem_flatMap] at hx
    obtain ⟨c, hc, hx⟩ := hx
    have hc := closed n hn hlt c hc
    rcases List.mem_cons.mp hx with rfl | hx
    · exact hc
    · exact ih c hc.1 hc.2 x hx

/-- A node and all nodes below it. -/
def subtree (s : Store) (n : NodeId) : List NodeId :=
  n :: s.descendants n

/-- The nodes of a tree that was new in `u` are still those that were new there. -/
theorem mem_subtree_of_treeFrom (h : TreeFrom s.size u) (hg : Grown u t) {x : NodeId}
    (hx : x ∈ t.subtree s.size) : s.size ≤ x ∧ x < u.size := by
  have closed : ∀ p, s.size ≤ p → p < u.size → ∀ x ∈ t.children p, s.size ≤ x ∧ x < u.size := by
    intro p hp hlt x hx
    rw [hg.children hlt] at hx
    obtain ⟨hpx, hxu, -⟩ := h.listed p hp x hx
    exact ⟨Nat.le_of_lt (Nat.lt_of_le_of_lt hp hpx), hxu⟩
  rcases List.mem_cons.mp hx with rfl | hx
  · exact ⟨Nat.le_refl _, h.root⟩
  · exact mem_descendantsTo_of_closed closed _ _ (Nat.le_refl _) h.root x hx

/-- The class of a node is that of the tree that it holds. -/
theorem isInstance_of_holds {n : NodeId} {tree : Tree} (h : Holds s n tree) (name : String) :
    s.isInstance name n = tree.isInstance name := by
  cases tree with
  | element type tag attributes cs =>
    obtain ⟨⟨as, hbody, -⟩, -⟩ := h
    rw [isInstance, hbody, Tree.isInstance, Tree.class?]
    cases type <;> rfl
  | text | comment | rawData =>
    rw [Holds] at h
    rw [isInstance, h]
    rfl

end Store

namespace Converter

open Store LiveConversion

variable {cv : Converter} {s t u : Store} {trees : List Tree} {roots : List NodeId}

/-! ## Gathered trees -/

/-- Between `s` and `t` the trees were made as new nodes with these roots, one after the other; the
nodes of `s` are as they were, and no tree has a node of them or of another tree. -/
structure Gathered (s : Store) (trees : List Tree) (roots : List NodeId) (t : Store) : Prop where
  grown : Grown s t
  descends : Descends t s.size
  held : List.Forall₂ (fun r tree => r < t.size ∧ Holds t r tree) roots trees
  new : ∀ r ∈ roots, ∀ x ∈ t.subtree r, s.size ≤ x
  apart : roots.Pairwise fun r r' => List.Disjoint (t.subtree r) (t.subtree r')

theorem Gathered.nil (s : Store) : Gathered s [] [] s where
  grown := .refl s
  descends p hp x hx := by
    rw [children_eq, getElem?_eq_none (Nat.not_lt.mpr hp)] at hx
    exact absurd hx List.not_mem_nil
  held := .nil
  new _ h := absurd h List.not_mem_nil
  apart := .nil

/-- From number `s.size` on children have higher numbers if that holds before the store grew and of
what it grew by. -/
theorem descends_of_grown (h : Descends u s.size) (hg : Grown u t) (ht : Descends t u.size) :
    Descends t s.size := by
  intro p hp x hx
  rcases Nat.lt_or_ge p u.size with hlt | hge
  · rw [hg.children hlt] at hx
    exact ⟨(h p hp x hx).1, Nat.lt_of_lt_of_le (h p hp x hx).2 hg.size⟩
  · exact ht p hge x hx

/-- In front of a search stands a conversion whose output is not kept. -/
theorem Gathered.skip {out : Option Tree} {root : Option NodeId} (h : Planted s out root u)
    (rest : Gathered u trees roots t) : Gathered s trees roots t := by
  cases h with
  | nothing => exact rest
  | tree grown new _ =>
    refine ⟨grown.trans rest.grown, descends_of_grown (new.descends (Nat.le_refl _)) rest.grown
      rest.descends, rest.held, fun r hr x hx => ?_, rest.apart⟩
    exact Nat.le_trans grown.size (rest.new r hr x hx)

/-- In front of a search stands a conversion whose output is kept. -/
theorem Gathered.cons {tree : Tree} {root : NodeId} (h : Planted s (some tree) (some root) u)
    (rest : Gathered u trees roots t) : Gathered s (tree :: trees) (root :: roots) t := by
  have hskip := rest.skip h
  cases h with
  | tree grown new holds =>
    have hfirst {x : NodeId} (hx : x ∈ t.subtree s.size) : s.size ≤ x ∧ x < u.size :=
      mem_subtree_of_treeFrom new rest.grown hx
    refine ⟨hskip.grown, hskip.descends, .cons ⟨?_, ?_⟩ hskip.held,
      List.forall_mem_cons.mpr ⟨fun x hx => (hfirst hx).1, hskip.new⟩,
      List.pairwise_cons.mpr ⟨fun r hr x hx hx' => ?_, hskip.apart⟩⟩
    · exact Nat.lt_of_lt_of_le new.root rest.grown.size
    · refine Holds.congr (new.descends (Nat.le_refl _)) (fun x _ hx => ?_) tree s.size
        (Nat.le_refl _) new.root holds
      exact ⟨rest.grown.body? hx, rest.grown.children hx⟩
    · -- the nodes of the later trees have numbers from `u.size` on
      exact Nat.lt_irrefl x (Nat.lt_of_lt_of_le (hfirst hx).2 (rest.new r hr x hx'))

/-- The gathered trees are read off their roots. -/
theorem Gathered.tree? (h : Gathered s trees roots t) :
    List.Forall₂ (fun r tree => t.tree? r = some tree) roots trees := by
  have hnew : ∀ r ∈ roots, s.size ≤ r := fun r hr => h.new r hr r List.mem_cons_self
  exact ((List.forall₂_and_left _ _).mpr ⟨hnew, h.held⟩).imp
    fun _ _ ⟨hr, hlt, holds⟩ => tree?_of_holds h.descends hr hlt holds

/-! ## The search -/

/-- A live conversion of an element plants its output. -/
theorem liveElement_exec (hr : cv.registry.OfClasses) {n : Markup.Node} (he : n.isElement = true)
    (hn : n.isPlain = true) (s : Store) (session : Session) :
    ∃ root t, (cv.liveElement n).exec ⟨s, session⟩ =
        (.ok root, ⟨t, session.note cv (cv.skipped none n)⟩) ∧
      Planted s (cv.output none n) root t := by
  rw [liveElement_eq none he]
  exact liveNode_exec hr none n hn s session

/-- A live search gathers the outputs that are instances of the class. -/
theorem liveInstances_exec (hr : cv.registry.OfClasses) (c : SemanticClass)
    {ns : List Markup.Node} (hns : ∀ n ∈ ns, n.isElement = true ∧ n.isPlain = true) (s : Store)
    (session : Session) :
    ∃ roots t, (cv.liveInstances c ns).exec ⟨s, session⟩ =
        (.ok roots, ⟨t, session.note cv (ns.flatMap (cv.skipped none))⟩) ∧
      Gathered s ((ns.filterMap (cv.output none)).filter (Tree.isInstance c.name)) roots t := by
  induction ns generalizing s session with
  | nil =>
    rw [List.flatMap_nil, Session.note_nil]
    exact ⟨[], s, rfl, .nil s⟩
  | cons n ns ih =>
    obtain ⟨⟨he, hn⟩, hns⟩ := List.forall_mem_cons.mp hns
    obtain ⟨root, u, hrun, hplanted⟩ := liveElement_exec hr he hn s session
    obtain ⟨roots, t, hrest, hgathered⟩ := ih hns u (session.note cv (cv.skipped none n))
    have hexec : (cv.liveInstances c (n :: ns)).exec ⟨s, session⟩ =
        (.ok (root.toList.filter (u.isInstance c.name) ++ roots),
          ⟨t, session.note cv ((n :: ns).flatMap (cv.skipped none))⟩) := by
      rw [liveInstances, exec_bind_ok hrun, exec_bind_ok (get_exec _), exec_bind_ok hrest,
        List.flatMap_cons, Session.note_append]
      rfl
    refine ⟨_, t, hexec, ?_⟩
    rw [List.filterMap_cons]
    generalize cv.output none n = out at hplanted
    cases hplanted with
    | nothing => exact hgathered
    | @tree tree _ grown new holds =>
      have hsame := isInstance_of_holds holds c.name
      simp only [Option.toList, List.filter_cons, List.filter_nil, hsame]
      cases tree.isInstance c.name with
      | true => exact hgathered.cons (.tree grown new holds)
      | false => exact hgathered.skip (.tree grown new holds)

end Converter

end TypedMarkup
