import TypedMarkup.Proofs.Store.Views
import Mathlib.Data.List.Basic

/-!
# What moving nodes does

`Sound` is what the links of a store obey at all times: parents own children, a listed node points
to the node that lists it, and no list repeats a node. A node may point to a parent that does not
list it; such a node is a stray (`Stray`). On a sound store each operation does one of four things:
it fails and changes nothing; it takes a node out (`Removed`); it gives a node a new place
(`Placed`); or, when a node is to go in front of itself, it fails and leaves the node a stray
(`Lost`). There is one lemma for each case of each operation, and `OnlyAbout` says what the last
three have in common: the links change about one node only.
-/

namespace TypedMarkup.Store

variable {s t : Store}

/-- What the links obey at all times. -/
structure Sound (s : Store) : Prop where
  isContainer : ∀ {x p : NodeId}, s.parent? x = some p → s.isContainer p = true
  parent? : ∀ {x p : NodeId}, x ∈ s.children p → s.parent? x = some p
  nodup : ∀ p : NodeId, (s.children p).Nodup

/-- The node `x` points to `p`, which does not list it. -/
def Stray (s : Store) (x p : NodeId) : Prop :=
  s.parent? x = some p ∧ x ∉ s.children p

theorem sound_empty : Sound empty where
  isContainer h := by simp [Store.parent?, empty] at h
  parent? h := by simp [children_eq, empty] at h
  nodup p := by simp [children_eq, empty]

theorem Sound.create (hs : Sound s) (body : Body) : Sound (s.create body).2 where
  isContainer hx := isContainer_create (hs.isContainer (by rwa [parent?_create] at hx))
  parent? hx := by rw [parent?_create]; exact hs.parent? (by rwa [children_create] at hx)
  nodup q := by rw [children_create]; exact hs.nodup q

/-- Only the list of its parent lists a node. -/
theorem Sound.not_mem_children (hs : Sound s) {x p n : NodeId} (hx : s.parent? x = some p)
    (hn : n ≠ p) : x ∉ s.children n := fun h =>
  hn (Option.some.inj ((hs.parent? h).symm.trans hx))

theorem Sound.not_mem_of_parent?_none (hs : Sound s) {x : NodeId} (hx : s.parent? x = none)
    (n : NodeId) : x ∉ s.children n := fun h => by
  have := hs.parent? h
  simp [hx] at this

theorem Sound.of_sameLinks (hs : Sound s) (h : SameLinks s t) : Sound t where
  isContainer hx := by rw [h.isContainer]; exact hs.isContainer (by rwa [← h.parent?])
  parent? hx := by rw [h.parent?]; exact hs.parent? (by rwa [← h.children])
  nodup p := by rw [h.children]; exact hs.nodup p

theorem SameLinks.stray_iff (h : SameLinks s t) {x p : NodeId} : Stray t x p ↔ Stray s x p := by
  simp only [Stray, h.parent?, h.children]

/-! ## Changes about one node -/

/-- The links of `t` differ from those of `s` only about `c`. -/
structure OnlyAbout (c : NodeId) (s t : Store) : Prop where
  size : t.size = s.size
  isContainer : ∀ n, t.isContainer n = s.isContainer n
  parent? : ∀ x, x ≠ c → t.parent? x = s.parent? x
  mem_children : ∀ x n, x ≠ c → (x ∈ t.children n ↔ x ∈ s.children n)

/-- A change about one node keeps soundness if the node itself is well linked afterwards. -/
theorem OnlyAbout.sound {c : NodeId} (h : OnlyAbout c s t) (hs : Sound s)
    (hc : ∀ p, t.parent? c = some p → s.isContainer p = true)
    (hm : ∀ p, c ∈ t.children p → t.parent? c = some p) (hn : ∀ p, (t.children p).Nodup) :
    Sound t where
  isContainer {x p} hx := by
    rw [h.isContainer]
    by_cases e : x = c
    · exact hc p (e ▸ hx)
    · exact hs.isContainer ((h.parent? x e) ▸ hx)
  parent? {x p} hx := by
    by_cases e : x = c
    · subst e; exact hm p hx
    · rw [h.parent? x e]; exact hs.parent? ((h.mem_children x p e).mp hx)
  nodup := hn

/-- A change about one node makes no other node a stray. -/
theorem OnlyAbout.stray_iff {c : NodeId} (h : OnlyAbout c s t) {x p : NodeId} (hx : x ≠ c) :
    Stray t x p ↔ Stray s x p := by
  simp only [Stray, h.parent? x hx, h.mem_children x p hx]

/-- `t` is `s` with `c` taken out of every list and pointing to no parent. -/
structure Removed (c : NodeId) (s t : Store) : Prop where
  size : t.size = s.size
  body? : ∀ n, t.body? n = s.body? n
  parent? : ∀ x, t.parent? x = if x = c then none else s.parent? x
  children : ∀ n, t.children n = (s.children n).erase c

/-- `t` is `s` with `c` taken out of every list, then put into that of `p`, which is now `l`. -/
structure Placed (c p : NodeId) (l : List NodeId) (s t : Store) : Prop where
  size : t.size = s.size
  body? : ∀ n, t.body? n = s.body? n
  parent? : ∀ x, t.parent? x = if x = c then some p else s.parent? x
  children : ∀ n, t.children n = if n = p then l else (s.children n).erase c

/-- `t` is `s` with `c` taken out of every list, but still pointing to its old parent. -/
structure Lost (c : NodeId) (s t : Store) : Prop where
  size : t.size = s.size
  body? : ∀ n, t.body? n = s.body? n
  parent? : ∀ x, t.parent? x = s.parent? x
  children : ∀ n, t.children n = (s.children n).erase c

namespace Removed

variable {c : NodeId}

theorem onlyAbout (h : Removed c s t) : OnlyAbout c s t where
  size := h.size
  isContainer n := isContainer_congr (h.body? n)
  parent? x hx := by rw [h.parent?, if_neg hx]
  mem_children x n hx := by rw [h.children, List.mem_erase_of_ne hx]

theorem not_mem (h : Removed c s t) (hs : Sound s) (n : NodeId) : c ∉ t.children n := by
  rw [h.children]
  exact (hs.nodup n).not_mem_erase

theorem sound (h : Removed c s t) (hs : Sound s) : Sound t := by
  refine h.onlyAbout.sound hs (fun p hp => ?_) (fun p hp => absurd hp (h.not_mem hs p)) fun p => ?_
  · simp [h.parent?] at hp
  · rw [h.children]; exact (hs.nodup p).erase c

theorem stray (h : Removed c s t) {x p : NodeId} (hx : Stray t x p) : Stray s x p := by
  refine (h.onlyAbout.stray_iff fun e => ?_).mp hx
  simp [Stray, h.parent?, e] at hx

end Removed

namespace Placed

variable {c p : NodeId} {l : List NodeId}

theorem onlyAbout (h : Placed c p l s t) (hl : l.Perm (c :: (s.children p).erase c)) :
    OnlyAbout c s t where
  size := h.size
  isContainer n := isContainer_congr (h.body? n)
  parent? x hx := by rw [h.parent?, if_neg hx]
  mem_children x n hx := by
    rw [h.children]
    split
    · subst n; rw [hl.mem_iff, List.mem_cons, List.mem_erase_of_ne hx]; simp [hx]
    · rw [List.mem_erase_of_ne hx]

theorem sound (h : Placed c p l s t) (hl : l.Perm (c :: (s.children p).erase c)) (hs : Sound s)
    (hp : s.isContainer p = true) : Sound t := by
  refine (h.onlyAbout hl).sound hs (fun q hq => ?_) (fun q hq => ?_) fun q => ?_
  · rw [h.parent?, if_pos rfl] at hq
    exact Option.some.inj hq ▸ hp
  · rw [h.parent?, if_pos rfl]
    rw [h.children] at hq
    split at hq
    · rw [‹q = p›]
    · exact absurd hq (hs.nodup q).not_mem_erase
  · rw [h.children]
    split
    · exact hl.nodup_iff.mpr
        (List.nodup_cons.mpr ⟨(hs.nodup p).not_mem_erase, (hs.nodup p).erase c⟩)
    · exact (hs.nodup q).erase c

theorem stray (h : Placed c p l s t) (hl : l.Perm (c :: (s.children p).erase c)) {x q : NodeId}
    (hx : Stray t x q) : Stray s x q := by
  refine ((h.onlyAbout hl).stray_iff fun e => ?_).mp hx
  obtain ⟨hq, hn⟩ := hx
  rw [h.parent?, if_pos e, Option.some.injEq] at hq
  rw [h.children, if_pos hq.symm, hl.mem_iff, e] at hn
  exact hn List.mem_cons_self

end Placed

namespace Lost

variable {c : NodeId}

theorem onlyAbout (h : Lost c s t) : OnlyAbout c s t where
  size := h.size
  isContainer n := isContainer_congr (h.body? n)
  parent? x _ := h.parent? x
  mem_children x n hx := by rw [h.children, List.mem_erase_of_ne hx]

theorem sound (h : Lost c s t) (hs : Sound s) : Sound t := by
  refine h.onlyAbout.sound hs (fun p hp => ?_) (fun p hp => ?_) fun p => ?_
  · exact hs.isContainer ((h.parent? c) ▸ hp)
  · rw [h.children] at hp; exact absurd hp (hs.nodup p).not_mem_erase
  · rw [h.children]; exact (hs.nodup p).erase c

theorem stray (h : Lost c s t) {x p : NodeId} (hx : Stray t x p) :
    Stray s x p ∨ x = c ∧ s.parent? c = some p := by
  by_cases e : x = c
  · exact .inr ⟨e, by rw [← h.parent?, ← e]; exact hx.1⟩
  · exact .inl ((h.onlyAbout.stray_iff e).mp hx)

end Lost

/-! ## Taking out -/

theorem removeChild_of_mem (hs : Sound s) {p c : NodeId} (h : c ∈ s.children p) :
    ∃ t, s.removeChild p c = ⟨t, none⟩ ∧ Removed c s t := by
  have hp := hs.isContainer (hs.parent? h)
  have hc : c < s.size := lt_size_of_parent? (hs.parent? h)
  refine ⟨(s.setChildren p ((s.children p).erase c)).setParent c none, ?_, by simp, by simp,
    fun x => ?_, fun n => ?_⟩
  · simp [removeChild, hp, h]
  · rw [parent?_setParent _ _ (by simpa using hc), parent?_setChildren]
  · rw [children_setParent, children_setChildren _ _ (lt_size_of_isContainer hp)]
    split
    · rw [‹n = p›]
    · rw [List.erase_of_not_mem (hs.not_mem_children (hs.parent? h) ‹_›)]

theorem removeChild_of_not_mem {p c : NodeId} (hp : s.isContainer p = true)
    (h : c ∉ s.children p) : s.removeChild p c = ⟨s, some .childNotFound⟩ := by
  simp [removeChild, hp, h]

theorem removeChild_of_not_isContainer {p : NodeId} (c : NodeId) (hp : s.isContainer p = false) :
    s.removeChild p c = ⟨s, some .noSuchMember⟩ := by
  simp [removeChild, hp]

theorem detach_of_stray (hs : Sound s) {c q : NodeId} (h : Stray s c q) :
    s.detach c = ⟨s, some .childNotFound⟩ := by
  rw [detach, h.1]
  exact removeChild_of_not_mem (hs.isContainer h.1) h.2

/-- A node that is no stray can always be detached. -/
theorem detach_of_not_stray (hs : Sound s) {c : NodeId} (h : ∀ q, ¬ Stray s c q) :
    ∃ t, s.detach c = ⟨t, none⟩ ∧ Removed c s t := by
  unfold detach
  cases hq : s.parent? c with
  | none =>
    refine ⟨s, rfl, rfl, fun _ => rfl, fun x => ?_, fun n => ?_⟩
    · split
      · rw [‹x = c›, hq]
      · rfl
    · rw [List.erase_of_not_mem (hs.not_mem_of_parent?_none hq n)]
  | some q =>
    have hm : c ∈ s.children q := Decidable.byContradiction fun hm => h q ⟨hq, hm⟩
    exact removeChild_of_mem hs hm

/-! ## Putting in -/

theorem appendChild_of_not_isContainer {p : NodeId} (c : NodeId) (hp : s.isContainer p = false) :
    s.appendChild p c = ⟨s, some .noSuchMember⟩ := by
  simp [appendChild, hp]

theorem appendChild_of_stray (hs : Sound s) {p c q : NodeId} (hp : s.isContainer p = true)
    (h : Stray s c q) : s.appendChild p c = ⟨s, some .childNotFound⟩ := by
  simp [appendChild, hp, detach_of_stray hs h]

/-- Points `c`, which has been taken out, to `p` and gives `p` its new list. -/
theorem Removed.placed {c p : NodeId} {l : List NodeId} (h : Removed c s t) (hc : c < s.size)
    (hp : s.isContainer p = true) : Placed c p l s ((t.setParent c (some p)).setChildren p l) where
  size := by simp [h.size]
  body? n := by simp [h.body?]
  parent? x := by
    rw [parent?_setChildren, parent?_setParent _ _ (h.size ▸ hc), h.parent?]
    split <;> rfl
  children n := by
    rw [children_setChildren _ _ (by simpa [h.size] using lt_size_of_isContainer hp),
      children_setParent, h.children]

theorem appendChild_of_not_stray (hs : Sound s) {p c : NodeId} (hp : s.isContainer p = true)
    (hc : c < s.size) (h : ∀ q, ¬ Stray s c q) :
    ∃ t, s.appendChild p c = ⟨t, none⟩ ∧ Placed c p ((s.children p).erase c ++ [c]) s t := by
  obtain ⟨u, hu, hr⟩ := detach_of_not_stray hs h
  refine ⟨_, ?_, hr.placed hc hp⟩
  simp [appendChild, hp, hu, hr.children]

theorem insertInto_of_not_mem {c r : NodeId} {l : List NodeId} (h : r ∉ l) :
    insertInto c r l = none := by
  induction l with
  | nil => rfl
  | cons x xs ih =>
    obtain ⟨hx, hxs⟩ := not_or.mp (mt List.mem_cons.mpr h)
    rw [insertInto, if_neg (Ne.symm hx), ih hxs, Option.map_none]

/-- Where `insertInto` puts a node: directly in front of the first `r`. -/
theorem insertInto_append {c r : NodeId} {before : List NodeId} (after : List NodeId)
    (h : r ∉ before) :
    insertInto c r (before ++ r :: after) = some (before ++ c :: r :: after) := by
  induction before with
  | nil => simp [insertInto]
  | cons x xs ih =>
    obtain ⟨hx, hxs⟩ := not_or.mp (mt List.mem_cons.mpr h)
    rw [List.cons_append, insertInto, if_neg (Ne.symm hx), ih hxs]
    rfl

theorem insertBefore_none (s : Store) (p c : NodeId) :
    s.insertBefore p c none = s.appendChild p c := by
  cases hp : s.isContainer p
  · rw [appendChild_of_not_isContainer c hp]; simp [insertBefore, hp]
  · simp [insertBefore, hp]

theorem insertBefore_of_not_isContainer {p : NodeId} (c : NodeId) (r : Option NodeId)
    (hp : s.isContainer p = false) : s.insertBefore p c r = ⟨s, some .noSuchMember⟩ := by
  simp [insertBefore, hp]

theorem insertBefore_of_not_mem {p r : NodeId} (c : NodeId) (hp : s.isContainer p = true)
    (hr : r ∉ s.children p) : s.insertBefore p c (some r) = ⟨s, some .referenceNotFound⟩ := by
  simp [insertBefore, hp, hr]

theorem insertBefore_of_stray (hs : Sound s) {p c r q : NodeId} (hr : r ∈ s.children p)
    (h : Stray s c q) : s.insertBefore p c (some r) = ⟨s, some .childNotFound⟩ := by
  have hp := hs.isContainer (hs.parent? hr)
  simp [insertBefore, hp, hr, detach_of_stray hs h]

/-- However the list of `p` without `c` is cut at `r`, `c` comes to stand at the cut. -/
theorem insertBefore_of_cut (hs : Sound s) {p c r : NodeId} (hr : r ∈ s.children p)
    (hc : c < s.size) (h : ∀ q, ¬ Stray s c q) {before after : List NodeId}
    (hl : (s.children p).erase c = before ++ r :: after) :
    ∃ t, s.insertBefore p c (some r) = ⟨t, none⟩ ∧ Placed c p (before ++ c :: r :: after) s t := by
  have hp := hs.isContainer (hs.parent? hr)
  obtain ⟨u, hu, hrem⟩ := detach_of_not_stray hs h
  have hnd : (before ++ r :: after).Nodup := hl ▸ (hs.nodup p).erase c
  have hb : r ∉ before := fun hb =>
    (List.nodup_cons.mp (List.perm_middle.nodup_iff.mp hnd)).1 (List.mem_append_left _ hb)
  refine ⟨_, ?_, hrem.placed hc hp⟩
  simp [insertBefore, hp, hr, hu, hrem.children, hl, insertInto_append after hb]

/-- The list of `p` is cut at `r`, and `c` stands in front of it. -/
theorem insertBefore_of_mem (hs : Sound s) {p c r : NodeId} (hr : r ∈ s.children p) (hrc : r ≠ c)
    (hc : c < s.size) (h : ∀ q, ¬ Stray s c q) :
    ∃ t before after, s.insertBefore p c (some r) = ⟨t, none⟩ ∧
      (s.children p).erase c = before ++ r :: after ∧
      Placed c p (before ++ c :: r :: after) s t := by
  have hmem : r ∈ (s.children p).erase c := (List.mem_erase_of_ne hrc).mpr hr
  obtain ⟨before, after, hl⟩ := List.append_of_mem hmem
  obtain ⟨t, ht, hpl⟩ := insertBefore_of_cut hs hr hc h hl
  exact ⟨t, before, after, ht, hl, hpl⟩

/-- A node that is to go in front of itself is in no list when its place is looked up. -/
theorem insertBefore_self (hs : Sound s) {p c : NodeId} (h : c ∈ s.children p) :
    ∃ t, s.insertBefore p c (some c) = ⟨t, some (.notInList (s.describe c))⟩ ∧ Lost c s t := by
  have hpar := hs.parent? h
  have hp := hs.isContainer hpar
  have hns : ∀ q, ¬ Stray s c q := fun q hq => by
    rw [Stray, hpar, Option.some.injEq] at hq
    exact hq.2 (hq.1 ▸ h)
  obtain ⟨u, hu, hrem⟩ := detach_of_not_stray hs hns
  have hc : c < u.size := hrem.size ▸ lt_size_of_parent? hpar
  have hnone : insertInto c c ((s.children p).erase c) = none :=
    insertInto_of_not_mem (hs.nodup p).not_mem_erase
  have hbody : ∀ n, (u.setParent c (some p)).body? n = s.body? n := fun n => by
    rw [body?_setParent, hrem.body?]
  refine ⟨u.setParent c (some p), ?_, ?_, hbody, fun x => ?_, fun n => ?_⟩
  · rw [← describe_congr (hbody c)]
    simp [insertBefore, hp, h, hu, hrem.children, hnone]
  · rw [size_setParent, hrem.size]
  · rw [parent?_setParent _ _ hc, hrem.parent?]
    split
    · rw [‹x = c›, hpar]
    · rfl
  · rw [children_setParent, hrem.children]

/-! ## The cases of an operation -/

/-- `removeChild` fails and changes nothing, or takes the node out. -/
theorem removeChild_cases (hs : Sound s) (p c : NodeId) :
    (∃ f, s.removeChild p c = ⟨s, some f⟩) ∨ ∃ t, s.removeChild p c = ⟨t, none⟩ ∧ Removed c s t := by
  by_cases hm : c ∈ s.children p
  · exact .inr (removeChild_of_mem hs hm)
  · cases hp : s.isContainer p
    · exact .inl ⟨_, removeChild_of_not_isContainer c hp⟩
    · exact .inl ⟨_, removeChild_of_not_mem hp hm⟩

/-- `appendChild` fails and changes nothing, or gives the node its place. -/
theorem appendChild_cases (hs : Sound s) (p : NodeId) {c : NodeId} (hc : c < s.size) :
    (∃ f, s.appendChild p c = ⟨s, some f⟩) ∨
      ∃ t, s.appendChild p c = ⟨t, none⟩ ∧ s.isContainer p = true ∧
        Placed c p ((s.children p).erase c ++ [c]) s t := by
  cases hp : s.isContainer p
  · exact .inl ⟨_, appendChild_of_not_isContainer c hp⟩
  by_cases hx : ∃ q, Stray s c q
  · obtain ⟨q, hq⟩ := hx
    exact .inl ⟨_, appendChild_of_stray hs hp hq⟩
  · obtain ⟨t, ht, hpl⟩ := appendChild_of_not_stray hs hp hc (not_exists.mp hx)
    exact .inr ⟨t, ht, rfl, hpl⟩

/-- `insertBefore` fails and changes nothing, or gives the node its place, or loses a child that is
to go in front of itself. -/
theorem insertBefore_cases (hs : Sound s) (p : NodeId) {c : NodeId} (hc : c < s.size)
    (r : Option NodeId) :
    (∃ f, s.insertBefore p c r = ⟨s, some f⟩ ∧ (r = some c → c ∉ s.children p)) ∨
      (∃ t l, s.insertBefore p c r = ⟨t, none⟩ ∧ s.isContainer p = true ∧
        l.Perm (c :: (s.children p).erase c) ∧ Placed c p l s t) ∨
      (r = some c ∧ c ∈ s.children p ∧
        ∃ t, s.insertBefore p c r = ⟨t, some (.notInList (s.describe c))⟩ ∧ Lost c s t) := by
  cases r with
  | none =>
    rw [insertBefore_none]
    rcases appendChild_cases hs p hc with ⟨f, hf⟩ | ⟨t, ht, hp, hpl⟩
    · exact .inl ⟨f, hf, by simp⟩
    · exact .inr (.inl ⟨t, _, ht, hp, List.perm_append_singleton .., hpl⟩)
  | some r =>
    by_cases hr : r ∈ s.children p
    swap
    · refine .inl ?_
      cases hp : s.isContainer p
      · exact ⟨_, insertBefore_of_not_isContainer c _ hp, fun e => Option.some.inj e ▸ hr⟩
      · exact ⟨_, insertBefore_of_not_mem c hp hr, fun e => Option.some.inj e ▸ hr⟩
    by_cases e : r = c
    · subst e
      exact .inr (.inr ⟨rfl, hr, insertBefore_self hs hr⟩)
    by_cases hx : ∃ q, Stray s c q
    · obtain ⟨q, hq⟩ := hx
      exact .inl ⟨_, insertBefore_of_stray hs hr hq, fun h => absurd (Option.some.inj h) e⟩
    · obtain ⟨t, before, after, ht, hl, hpl⟩ :=
        insertBefore_of_mem hs hr e hc (not_exists.mp hx)
      refine .inr (.inl ⟨t, _, ht, hs.isContainer (hs.parent? hr), ?_, hpl⟩)
      rw [hl]
      exact List.perm_middle

end TypedMarkup.Store
