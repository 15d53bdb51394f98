import TypedMarkup.Proofs.Store.Siblings
import Mathlib.Logic.Relation

/-!
# Forests

A store is a forest (`IsForest`) when the two directions of its links agree, no list repeats a node
and no node is its own ancestor. Nothing stops an operation from closing a cycle; this module says
exactly when one does.

* `upTo_of_upTo`, `upTo_of_avoids`: what a new parent of one node does to the paths up the store:
  a path to this node stays, and so does a path that does not meet it;
* `acyclic_iff`: a new parent of a node closes a cycle just when the parent is the node itself or
  stands below it;
* `moves_keep_forest_iff`: the moves of a forest succeed, and leave a forest under this condition.
-/

namespace TypedMarkup.Store

variable {s t : Store} {c p : NodeId}

/-! ## Ancestors -/

/-- The node `x` points to the parent `q`. -/
def Up (s : Store) (x q : NodeId) : Prop :=
  s.parent? x = some q

/-- Going up from `x` over one parent or more leads to `a`. -/
def Ancestor (s : Store) (a x : NodeId) : Prop :=
  Relation.TransGen s.Up x a

/-- Going up from `x` over any number of parents leads to `a`: it is an ancestor, or `x` itself. -/
def UpTo (s : Store) (x a : NodeId) : Prop :=
  Relation.ReflTransGen s.Up x a

/-- The two directions of the links agree, parents own children, no list repeats a node, and no node
is its own ancestor. -/
structure IsForest (s : Store) : Prop where
  mem_children_iff : ∀ x p, x ∈ s.children p ↔ s.parent? x = some p
  isContainer : ∀ x p, s.parent? x = some p → s.isContainer p = true
  nodup : ∀ p, (s.children p).Nodup
  acyclic : ∀ x, ¬ s.Ancestor x x

theorem upTo_iff {x a : NodeId} : s.UpTo x a ↔ a = x ∨ s.Ancestor a x :=
  Relation.reflTransGen_iff_eq_or_transGen

/-- The ancestors of a node are its parent and the ancestors of its parent. -/
theorem ancestor_iff {x a : NodeId} :
    s.Ancestor a x ↔ ∃ q, s.parent? x = some q ∧ (a = q ∨ s.Ancestor a q) := by
  simp only [← upTo_iff]
  exact Relation.TransGen.head'_iff

theorem not_ancestor_of_parent?_none {x : NodeId} (h : s.parent? x = none) (a : NodeId) :
    ¬ s.Ancestor a x := fun ha => by
  obtain ⟨q, hq, -⟩ := ancestor_iff.mp ha
  simp [h] at hq

theorem IsForest.linked (h : IsForest s) : Linked s :=
  ⟨h.mem_children_iff, h.isContainer, h.nodup⟩

theorem isForest_iff : IsForest s ↔ Linked s ∧ ∀ x, ¬ s.Ancestor x x :=
  ⟨fun h => ⟨h.linked, h.acyclic⟩, fun ⟨hs, acyclic⟩ =>
    ⟨hs.mem_children_iff, hs.isContainer, hs.nodup, acyclic⟩⟩

theorem IsForest.sound (h : IsForest s) : Sound s :=
  h.linked.sound

theorem IsForest.not_stray (h : IsForest s) (x q : NodeId) : ¬ Stray s x q :=
  h.linked.not_stray x q

/-! ## Paths after a node has got another parent -/

/-- A path up to the node stays: it ends as soon as it comes to it. -/
theorem upTo_of_upTo (h : ∀ x, x ≠ c → t.parent? x = s.parent? x) {x : NodeId}
    (path : s.UpTo x c) : t.UpTo x c := by
  induction path using Relation.ReflTransGen.head_induction_on with
  | refl => exact .refl
  | @head x y step _ ih =>
    by_cases e : x = c
    · rw [e]; exact .refl
    · exact .head ((h x e).trans step) ih

/-- If going up from a node does not lead to `c`, it leads where it led before. -/
theorem upTo_of_avoids (h : ∀ x, x ≠ c → t.parent? x = s.parent? x) {x a : NodeId}
    (avoids : ¬ s.UpTo x c) (path : t.UpTo x a) : s.UpTo x a := by
  induction path with
  | refl => exact .refl
  | @tail b a _ step ih =>
    have hb : b ≠ c := fun e => avoids (e ▸ ih)
    exact ih.tail ((h b hb).symm.trans step)

/-- A path in the new store goes over the new parent of `c`, or is a path of the old one. -/
theorem ancestor_cases (h : ∀ x, x ≠ c → t.parent? x = s.parent? x) (hc : t.parent? c = some p)
    {x a : NodeId} (path : t.Ancestor a x) : s.Ancestor a x ∨ t.UpTo x c ∧ t.UpTo p a := by
  have step {y a : NodeId} (hy : t.UpTo x y) (hya : t.Up y a) :
      s.Up y a ∨ t.UpTo x c ∧ t.UpTo p a := by
    by_cases e : y = c
    · have hpa : p = a := Option.some.inj (hc.symm.trans (e ▸ hya))
      exact .inr ⟨e ▸ hy, hpa ▸ .refl⟩
    · exact .inl ((h y e).symm.trans hya)
  induction path with
  | single hxa => exact (step .refl hxa).imp_left .single
  | @tail y a hxy hya ih =>
    rcases ih with hold | ⟨hup, hpy⟩
    · exact (step hxy.to_reflTransGen hya).imp_left hold.tail
    · exact .inr ⟨hup, hpy.tail hya⟩

/-- Giving a node another parent leaves a store without cycles just when the parent is not the node
itself and does not stand below it. -/
theorem acyclic_iff (hs : ∀ x, ¬ s.Ancestor x x) (h : ∀ x, x ≠ c → t.parent? x = s.parent? x)
    (hc : t.parent? c = some p) : (∀ x, ¬ t.Ancestor x x) ↔ c ≠ p ∧ ¬ s.Ancestor c p := by
  rw [← not_or, ← upTo_iff]
  constructor
  · -- the path from `p` to `c` stays, and the new step from `c` to `p` closes it
    intro acyclic path
    exact acyclic c (.head' hc (upTo_of_upTo h path))
  · -- a cycle is no old path, so it goes from `p` to `c`, where no path led
    intro avoids x cycle
    rcases ancestor_cases h hc cycle with hold | ⟨hxc, hpx⟩
    · exact hs x hold
    · exact avoids (upTo_of_avoids h avoids (hpx.trans hxc))

/-! ## Moves of forests -/

theorem isForest_empty : IsForest empty :=
  isForest_iff.mpr ⟨linked_empty, fun x => not_ancestor_of_parent?_none rfl x⟩

/-- A new node is a tree of its own. -/
theorem IsForest.create (h : IsForest s) (body : Body) : IsForest (s.create body).2 := by
  refine isForest_iff.mpr ⟨h.linked.create body, fun x hx => ?_⟩
  have hup : (s.create body).2.Up = s.Up := by
    funext x q
    rw [Up, parent?_create, Up]
  rw [Ancestor, hup] at hx
  exact h.acyclic x hx

/-- A node with a new place leaves a forest just when the place is neither the node nor below it. -/
theorem Placed.isForest_iff {l : List NodeId} (h : Placed c p l s t)
    (hl : l.Perm (c :: (s.children p).erase c)) (hs : IsForest s) (hp : s.isContainer p = true) :
    IsForest t ↔ c ≠ p ∧ ¬ s.Ancestor c p := by
  have hc : t.parent? c = some p := by rw [h.parent?, if_pos rfl]
  rw [← acyclic_iff hs.acyclic (fun x hx => (h.onlyAbout hl).parent? x hx) hc]
  have linked : Linked t := h.linked hl hs.linked hp
  exact ⟨IsForest.acyclic, fun acyclic => Store.isForest_iff.mpr ⟨linked, acyclic⟩⟩

/-- Taking a node out leaves a forest: it opens paths and closes none. -/
theorem Removed.isForest (h : Removed c s t) (hs : IsForest s) : IsForest t := by
  refine Store.isForest_iff.mpr ⟨h.linked hs.linked, ?_⟩
  have up {y q : NodeId} (hy : t.Up y q) : s.Up y q := by
    rw [Up, h.parent?] at hy
    split at hy
    · exact absurd hy (by simp)
    · exact hy
  exact fun x hx => hs.acyclic x (Relation.TransGen.mono (fun _ _ => up) x x hx)

/-- In a forest a node can be put behind the children of any container, and this leaves a forest
just when the node is neither the container nor one of its ancestors. -/
theorem appendChild_isForest_iff (hs : IsForest s) (hp : s.isContainer p = true)
    (hc : c < s.size) :
    (s.appendChild p c).fault = none ∧
      (IsForest (s.appendChild p c).store ↔ c ≠ p ∧ ¬ s.Ancestor c p) := by
  obtain ⟨t, ht, hpl⟩ := appendChild_of_not_stray hs.sound hp hc (hs.not_stray c)
  rw [ht]
  exact ⟨rfl, hpl.isForest_iff (List.perm_append_singleton ..) hs hp⟩

/-- Any other node can be put behind the children of the root of a tree. -/
theorem IsForest.appendChild_root (hs : IsForest s) (hp : s.isContainer p = true)
    (root : s.parent? p = none) (hc : c < s.size) (hne : c ≠ p) :
    IsForest (s.appendChild p c).store :=
  (appendChild_isForest_iff hs hp hc).2.mpr ⟨hne, not_ancestor_of_parent?_none root c⟩

/-- Putting a node in front of another child. -/
theorem insertBefore_isForest_iff (hs : IsForest s) {r : NodeId} (hr : r ∈ s.children p)
    (hrc : r ≠ c) (hc : c < s.size) :
    (s.insertBefore p c (some r)).fault = none ∧
      (IsForest (s.insertBefore p c (some r)).store ↔ c ≠ p ∧ ¬ s.Ancestor c p) := by
  obtain ⟨t, before, after, ht, hl, hpl⟩ :=
    insertBefore_of_mem hs.sound hr hrc hc (hs.not_stray c)
  rw [ht]
  refine ⟨rfl, hpl.isForest_iff ?_ hs (hs.sound.isContainer (hs.sound.parent? hr))⟩
  rw [hl]
  exact List.perm_middle

theorem removeChild_isForest (hs : IsForest s) (hm : c ∈ s.children p) :
    (s.removeChild p c).fault = none ∧ IsForest (s.removeChild p c).store := by
  obtain ⟨t, ht, hrem⟩ := removeChild_of_mem hs.sound hm
  rw [ht]
  exact ⟨rfl, hrem.isForest hs⟩

/-- In a forest, with any container `p` and any node `c`: putting `c` behind the children of `p`
succeeds, and leaves a forest just when `c` is neither `p` nor an ancestor of `p`; the same holds of
putting `c` in front of a child of `p` other than `c`; and taking a child out of `p` succeeds and
leaves a forest. -/
theorem moves_keep_forest_iff (hs : IsForest s) (hp : s.isContainer p = true)
    (hc : c < s.size) :
    ((s.appendChild p c).fault = none ∧
      (IsForest (s.appendChild p c).store ↔ c ≠ p ∧ ¬ s.Ancestor c p)) ∧
    (∀ r ∈ s.children p, r ≠ c →
      (s.insertBefore p c (some r)).fault = none ∧
        (IsForest (s.insertBefore p c (some r)).store ↔ c ≠ p ∧ ¬ s.Ancestor c p)) ∧
    (c ∈ s.children p →
      (s.removeChild p c).fault = none ∧ IsForest (s.removeChild p c).store) :=
  ⟨appendChild_isForest_iff hs hp hc, fun _ hr hrc => insertBefore_isForest_iff hs hr hrc hc,
    removeChild_isForest hs⟩

/-- A division, a section and a text that are not linked. -/
def loose : Store :=
  let s := (empty.create (.element (.standard .blockContainer) "div" [])).2
  let s := (s.create (.element (.standard .blockContainer) "section" [])).2
  (s.create (.text "x")).2

/-- The division with the section in it, and the text in the section. -/
def shelf : Store :=
  ((loose.appendChild 0 1).store.appendChild 1 2).store

theorem isForest_shelf : IsForest shelf := by
  have created : IsForest loose := ((isForest_empty.create _).create _).create _
  have first : IsForest (loose.appendChild 0 1).store :=
    created.appendChild_root (by decide) (by decide) (by decide) (by decide)
  refine (appendChild_isForest_iff first (by decide) (by decide)).2.mpr ⟨by decide, fun h => ?_⟩
  -- going up from the section leads to the division and no further
  obtain ⟨q, hq, h⟩ := ancestor_iff.mp h
  obtain rfl : 0 = q := Option.some.inj (Eq.trans (by decide) hq)
  exact h.elim (by decide) (not_ancestor_of_parent?_none (by decide) 2)

/-- The division cannot go into its own section, neither behind the text nor in front of it, and the
text can be taken out. -/
theorem moves_keep_forest_iff_shelf :
    IsForest shelf ∧ shelf.isContainer 1 = true ∧ shelf.Ancestor 0 1 ∧ 2 ∈ shelf.children 1 ∧
      (shelf.appendChild 1 0).fault = none ∧ ¬ IsForest (shelf.appendChild 1 0).store ∧
      (shelf.insertBefore 1 0 (some 2)).fault = none ∧
      ¬ IsForest (shelf.insertBefore 1 0 (some 2)).store ∧
      IsForest (shelf.removeChild 1 2).store := by
  have container : shelf.isContainer 1 = true := by decide
  have above : shelf.Ancestor 0 1 := ancestor_iff.mpr ⟨0, by decide, .inl rfl⟩
  have listed : 2 ∈ shelf.children 1 := by decide
  have moves := moves_keep_forest_iff isForest_shelf container (c := 0) (by decide)
  have inserted := moves.2.1 2 listed (by decide)
  have removed := (moves_keep_forest_iff isForest_shelf container (c := 2) (by decide)).2.2 listed
  exact ⟨isForest_shelf, container, above, listed, moves.1.1, fun h => (moves.1.2.mp h).2 above,
    inserted.1, fun h => (inserted.2.mp h).2 above, removed.2⟩

end TypedMarkup.Store
