import TypedMarkup.Proofs.Store.Moves

/-!
# Moves among siblings

What a move does to the lists of children in a store whose links agree in both directions
(`Linked`), cycles or none. The list of the container becomes the old one without the node, with the
node put behind it or in front of the named child; another parent loses the node and nothing else,
and all other links stay (`Moved`).

* `linked_iff`: the links agree when they are sound and no node is a stray;
* `Linked.filter_of_cut`: a list without one of its nodes, which is what the place of the named
  child is looked up in;
* `moves_place_node`: what each of the two moves leaves, for nodes from anywhere.
-/

namespace TypedMarkup.Store

variable {s t : Store} {c p : NodeId}

/-! ## Links that agree -/

/-- The two directions of the links agree: a node points to a parent, which owns children, just when
this lists it, and no list repeats a node. -/
structure Linked (s : Store) : Prop where
  mem_children_iff : ∀ x p, x ∈ s.children p ↔ s.parent? x = some p
  isContainer : ∀ x p, s.parent? x = some p → s.isContainer p = true
  nodup : ∀ p, (s.children p).Nodup

theorem Linked.sound (h : Linked s) : Sound s where
  isContainer hx := h.isContainer _ _ hx
  parent? hx := (h.mem_children_iff _ _).mp hx
  nodup := h.nodup

theorem Linked.not_stray (h : Linked s) (x q : NodeId) : ¬ Stray s x q := fun hx =>
  hx.2 ((h.mem_children_iff x q).mpr hx.1)

theorem linked_iff : Linked s ↔ Sound s ∧ ∀ x q, ¬ Stray s x q := by
  refine ⟨fun h => ⟨h.sound, h.not_stray⟩, fun ⟨hs, hstray⟩ => ?_⟩
  refine ⟨fun x q => ⟨hs.parent?, fun hx => ?_⟩, fun _ _ => hs.isContainer, hs.nodup⟩
  exact Decidable.byContradiction fun hm => hstray x q ⟨hx, hm⟩

theorem linked_empty : Linked empty :=
  linked_iff.mpr ⟨sound_empty, fun x q hx => by simp [Stray, parent?, empty] at hx⟩

theorem Linked.create (h : Linked s) (body : Body) : Linked (s.create body).2 := by
  refine linked_iff.mpr ⟨h.sound.create body, fun x q hx => ?_⟩
  rw [Stray, parent?_create, children_create] at hx
  exact h.not_stray x q hx

/-- A node with a new place leaves the links in agreement. -/
theorem Placed.linked {l : List NodeId} (h : Placed c p l s t)
    (hl : l.Perm (c :: (s.children p).erase c)) (hs : Linked s) (hp : s.isContainer p = true) :
    Linked t :=
  linked_iff.mpr ⟨h.sound hl hs.sound hp, fun x q hx => hs.not_stray x q (h.stray hl hx)⟩

theorem Removed.linked (h : Removed c s t) (hs : Linked s) : Linked t :=
  linked_iff.mpr ⟨h.sound hs.sound, fun x q hx => hs.not_stray x q (h.stray hx)⟩

/-! ## Lists without a node -/

theorem Linked.erase_eq_filter (h : Linked s) (q c : NodeId) :
    (s.children q).erase c = (s.children q).filter (· != c) :=
  (h.nodup q).erase_eq_filter c

/-- A node that is not listed is not missed. -/
theorem Linked.erase_of_ne (h : Linked s) {q : NodeId} (hq : s.parent? c ≠ some q) :
    (s.children q).erase c = s.children q :=
  List.erase_of_not_mem fun hm => hq ((h.mem_children_iff c q).mp hm)

/-- A list that is cut at a node is its two parts when the node is taken out. -/
theorem Linked.filter_of_cut (h : Linked s) {q : NodeId} {before after : List NodeId}
    (hl : s.children q = before ++ c :: after) :
    (s.children q).filter (· != c) = before ++ after := by
  have hnd : (before ++ c :: after).Nodup := hl ▸ h.nodup q
  have hb : c ∉ before := fun hb =>
    (List.nodup_cons.mp (List.perm_middle.nodup_iff.mp hnd)).1 (List.mem_append_left _ hb)
  rw [← h.erase_eq_filter, hl, List.erase_append_right _ hb, List.erase_cons_head]

/-! ## What a move leaves -/

/-- What a move of `c` to `p` leaves: the links agree, `p` lists `l`, another parent that listed `c`
has lost it alone, and nothing else has changed. -/
structure Moved (c p : NodeId) (l : List NodeId) (s t : Store) : Prop where
  linked : Linked t
  body? : ∀ n, t.body? n = s.body? n
  parent? : t.parent? c = some p
  children : t.children p = l
  oldParent : ∀ q, q ≠ p → s.parent? c = some q → t.children q = (s.children q).filter (· != c)
  otherParents : ∀ x, x ≠ c → t.parent? x = s.parent? x
  otherChildren : ∀ q, q ≠ p → s.parent? c ≠ some q → t.children q = s.children q

theorem Placed.moved {l : List NodeId} (h : Placed c p l s t)
    (hl : l.Perm (c :: (s.children p).erase c)) (hs : Linked s) (hp : s.isContainer p = true) :
    Moved c p l s t where
  linked := h.linked hl hs hp
  body? := h.body?
  parent? := by rw [h.parent?, if_pos rfl]
  children := by rw [h.children, if_pos rfl]
  oldParent q hq _ := by rw [h.children, if_neg hq, hs.erase_eq_filter]
  otherParents x hx := by rw [h.parent?, if_neg hx]
  otherChildren q hq hc := by rw [h.children, if_neg hq, hs.erase_of_ne hc]

/-- A node that is put behind the children of a container comes last. -/
theorem appendChild_moved (hs : Linked s) (hp : s.isContainer p = true) (hc : c < s.size) :
    ∃ t, s.appendChild p c = ⟨t, none⟩ ∧
      Moved c p ((s.children p).filter (· != c) ++ [c]) s t := by
  obtain ⟨t, ht, hpl⟩ := appendChild_of_not_stray hs.sound hp hc (hs.not_stray c)
  refine ⟨t, ht, ?_⟩
  rw [← hs.erase_eq_filter]
  exact hpl.moved (List.perm_append_singleton ..) hs hp

/-- A node that is put in front of a child comes to stand at the child, wherever the list without
the node is cut at it. -/
theorem insertBefore_moved (hs : Linked s) {r : NodeId} (hr : r ∈ s.children p) (hc : c < s.size)
    {before after : List NodeId} (hl : (s.children p).filter (· != c) = before ++ r :: after) :
    ∃ t, s.insertBefore p c (some r) = ⟨t, none⟩ ∧ Moved c p (before ++ c :: r :: after) s t := by
  rw [← hs.erase_eq_filter] at hl
  obtain ⟨t, ht, hpl⟩ := insertBefore_of_cut hs.sound hr hc (hs.not_stray c) hl
  refine ⟨t, ht, hpl.moved ?_ hs (hs.sound.isContainer (hs.sound.parent? hr))⟩
  rw [hl]
  exact List.perm_middle

/-! ## Main statement -/

/-- Where the links agree, any node `c` can be put behind the children of a container `p`: these are
then the old ones without `c`, in their order, and `c`. It can also be put in front of any other
child `r` of `p`: the children are then the old ones without `c`, in their order, with `c` directly
in front of `r`. So a child that moves forward comes to stand behind all that stood between it and
`r`, and one that moves back in front of `r` and of all that stood between. -/
theorem moves_place_node (hs : Linked s) (hp : s.isContainer p = true) (hc : c < s.size) :
    (∃ t, s.appendChild p c = ⟨t, none⟩ ∧
      Moved c p ((s.children p).filter (· != c) ++ [c]) s t) ∧
    ∀ r ∈ s.children p, r ≠ c →
      ∃ t, s.insertBefore p c (some r) = ⟨t, none⟩ ∧
        (∃ before after, (s.children p).filter (· != c) = before ++ r :: after ∧
          Moved c p (before ++ c :: r :: after) s t) ∧
        (∀ before between after, s.children p = before ++ c :: (between ++ r :: after) →
          t.children p = before ++ (between ++ c :: r :: after)) ∧
        ∀ before between after, s.children p = before ++ r :: (between ++ c :: after) →
          t.children p = before ++ c :: r :: (between ++ after) := by
  refine ⟨appendChild_moved hs hp hc, fun r hr hrc => ?_⟩
  have hmem : r ∈ (s.children p).filter (· != c) :=
    List.mem_filter.mpr ⟨hr, by simpa using hrc⟩
  obtain ⟨before, after, hl⟩ := List.append_of_mem hmem
  obtain ⟨t, ht, hmoved⟩ := insertBefore_moved hs hr hc hl
  -- the store is the same however the list is cut, so each cut tells its list
  have children_of_cut {before after : List NodeId}
      (hl : (s.children p).filter (· != c) = before ++ r :: after) :
      t.children p = before ++ c :: r :: after := by
    obtain ⟨u, hu, hmoved⟩ := insertBefore_moved hs hr hc hl
    obtain rfl : t = u := congrArg Outcome.store (ht.symm.trans hu)
    exact hmoved.children
  refine ⟨t, ht, ⟨before, after, hl, hmoved⟩, fun before between after h => ?_,
    fun before between after h => children_of_cut ?_⟩
  · rw [← List.append_assoc]
    refine children_of_cut ?_
    rw [hs.filter_of_cut h, List.append_assoc]
  · rw [← List.cons_append, ← List.append_assoc] at h
    rw [hs.filter_of_cut h, List.append_assoc, List.cons_append]

/-- A list with three entries and a section, none of them linked, and a text. -/
def unlinked : Store :=
  let entry := Body.element (.standard .blockContainer) "li" []
  let s := (empty.create (.element (.standard .blockContainer) "ul" [])).2
  let s := (((s.create entry).2.create entry).2.create entry).2
  ((s.create (.element (.standard .blockContainer) "section" [])).2.create (.text "x")).2

/-- The entries in the list, and the text in the section. -/
def menu : Store :=
  let s := ((unlinked.appendChild 0 1).store.appendChild 0 2).store
  ((s.appendChild 0 3).store.appendChild 4 5).store

theorem linked_menu : Linked menu := by
  have created : Linked unlinked :=
    (((((linked_empty.create _).create _).create _).create _).create _).create _
  have append {s : Store} {p c : NodeId} (h : Linked s) (hp : s.isContainer p = true)
      (hc : c < s.size) : Linked (s.appendChild p c).store := by
    obtain ⟨t, ht, hmoved⟩ := appendChild_moved h hp hc
    rw [ht]
    exact hmoved.linked
  have entries := append (append created (p := 0) (c := 1) (by decide) (by decide)) (p := 0) (c := 2)
    (by decide) (by decide)
  exact append (append entries (by decide) (by decide)) (by decide) (by decide)

/-- The first entry goes in front of the last, the last in front of the first, and the text from its
section behind all of them. -/
theorem moves_place_node_menu :
    Linked menu ∧ menu.isContainer 0 = true ∧ menu.children 0 = [1, 2, 3] ∧
      menu.parent? 5 = some 4 ∧
      (menu.insertBefore 0 1 (some 3)).store.children 0 = [2, 1, 3] ∧
      (menu.insertBefore 0 3 (some 1)).store.children 0 = [3, 1, 2] ∧
      (menu.appendChild 0 5).store.children 0 = [1, 2, 3, 5] ∧
      (menu.appendChild 0 5).store.children 4 = [] := by
  have container : menu.isContainer 0 = true := by decide
  have listed : menu.children 0 = [1, 2, 3] := by decide
  have inside : menu.parent? 5 = some 4 := by decide
  obtain ⟨-, forward⟩ := moves_place_node linked_menu container (c := 1) (by decide)
  obtain ⟨-, back⟩ := moves_place_node linked_menu container (c := 3) (by decide)
  obtain ⟨⟨t, ht, moved⟩, -⟩ := moves_place_node linked_menu container (c := 5) (by decide)
  obtain ⟨u, hu, -, between, -⟩ := forward 3 (by decide) (by decide)
  obtain ⟨v, hv, -, -, between'⟩ := back 1 (by decide) (by decide)
  refine ⟨linked_menu, container, listed, inside, ?_, ?_, ?_, ?_⟩
  · rw [hu]
    exact between [] [2] [] listed
  · rw [hv]
    exact between' [] [2] [] listed
  · rw [ht, moved.children, listed]
    rfl
  · rw [ht, moved.oldParent 4 (by decide) inside]
    decide

end TypedMarkup.Store
