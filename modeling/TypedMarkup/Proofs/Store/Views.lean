import TypedMarkup.Store.Links

/-!
# Views of the store

What each change of a store does to its views: `body?`, `parent?`, `children`, and what is read off
the body (`isContainer`). A change to a node that is not there does nothing, so some of the lemmas
ask whether the node exists (`n < s.size`). `SameLinks` relates stores that differ at most in
attributes.
-/

namespace TypedMarkup.Store

variable {s : Store}

theorem getElem?_setParent (n x : NodeId) (p : Option NodeId) :
    (s.setParent n p).cells[x]? =
      if n = x then s.cells[x]?.map fun cell => { cell with parent := p } else s.cells[x]? :=
  Array.getElem?_modify

theorem getElem?_setChildren (n x : NodeId) (l : List NodeId) :
    (s.setChildren n l).cells[x]? =
      if n = x then s.cells[x]?.map fun cell => { cell with children := l } else s.cells[x]? :=
  Array.getElem?_modify

theorem getElem?_setBody (n x : NodeId) (body : Body) :
    (s.setBody n body).cells[x]? =
      if n = x then s.cells[x]?.map fun cell => { cell with body := body } else s.cells[x]? :=
  Array.getElem?_modify

theorem getElem?_create (body : Body) (x : NodeId) :
    (create body s).2.cells[x]? = if x = s.size then some ⟨body, none, []⟩ else s.cells[x]? :=
  Array.getElem?_push

/-- The list of children as a view of the cell. -/
theorem children_eq (s : Store) (n : NodeId) :
    s.children n = (s.cells[n]?.map Cell.children).getD [] := by
  unfold children
  cases s.cells[n]? <;> rfl

/-! ## The number of nodes -/

@[simp] theorem size_setParent (n : NodeId) (p : Option NodeId) : (s.setParent n p).size = s.size :=
  Array.size_modify

@[simp] theorem size_setChildren (n : NodeId) (l : List NodeId) : (s.setChildren n l).size = s.size :=
  Array.size_modify

@[simp] theorem size_create (body : Body) : (create body s).2.size = s.size + 1 :=
  Array.size_push ..

theorem exists_cell {n : NodeId} (h : n < s.size) : ∃ cell, s.cells[n]? = some cell :=
  ⟨_, Array.getElem?_eq_getElem h⟩

theorem getElem?_eq_none {n : NodeId} (h : ¬ n < s.size) : s.cells[n]? = none :=
  Array.getElem?_eq_none (Nat.le_of_not_lt h)

theorem isSome_body?_iff {n : NodeId} : (s.body? n).isSome = true ↔ n < s.size := by
  simp [body?, size]

/-- A node that owns children exists. -/
theorem lt_size_of_isContainer {n : NodeId} (h : s.isContainer n = true) : n < s.size :=
  Decidable.byContradiction fun hn => by simp [isContainer, body?, getElem?_eq_none hn] at h

/-- A node that points to a parent exists. -/
theorem lt_size_of_parent? {x p : NodeId} (h : s.parent? x = some p) : x < s.size :=
  Decidable.byContradiction fun hn => by simp [parent?, getElem?_eq_none hn] at h

/-! ## Bodies -/

@[simp] theorem body?_setParent (n x : NodeId) (p : Option NodeId) :
    (s.setParent n p).body? x = s.body? x := by
  simp only [body?, getElem?_setParent]
  split <;> simp [Function.comp_def]

@[simp] theorem body?_setChildren (n x : NodeId) (l : List NodeId) :
    (s.setChildren n l).body? x = s.body? x := by
  simp only [body?, getElem?_setChildren]
  split <;> simp [Function.comp_def]

theorem body?_setBody (n x : NodeId) (body : Body) :
    (s.setBody n body).body? x = if n = x then (s.body? x).map fun _ => body else s.body? x := by
  simp only [body?, getElem?_setBody]
  split
  · cases s.cells[x]? <;> rfl
  · rfl

/-- Changing attributes of one node leaves the others as they are. -/
theorem body?_modifyAttributes_of_ne {n x : NodeId} (hx : x ≠ n) (f : Attributes → Attributes) :
    (s.modifyAttributes n f).body? x = s.body? x := by
  unfold modifyAttributes
  split
  · rw [body?_setBody, if_neg hx.symm]
  · rfl

theorem body?_create (body : Body) (x : NodeId) :
    (create body s).2.body? x = if x = s.size then some body else s.body? x := by
  simp only [body?, getElem?_create]
  split <;> rfl

theorem isContainer_congr {s t : Store} {n : NodeId} (h : t.body? n = s.body? n) :
    t.isContainer n = s.isContainer n := by
  simp only [isContainer, h]

theorem describe_congr {s t : Store} {n : NodeId} (h : t.body? n = s.body? n) :
    t.describe n = s.describe n := by
  simp only [describe, h]

@[simp] theorem isContainer_setParent (n x : NodeId) (p : Option NodeId) :
    (s.setParent n p).isContainer x = s.isContainer x :=
  isContainer_congr (body?_setParent ..)

@[simp] theorem isContainer_setChildren (n x : NodeId) (l : List NodeId) :
    (s.setChildren n l).isContainer x = s.isContainer x :=
  isContainer_congr (body?_setChildren ..)

theorem isContainer_create {body : Body} {x : NodeId} (h : s.isContainer x = true) :
    (create body s).2.isContainer x = true := by
  have hx : x ≠ s.size := Nat.ne_of_lt (lt_size_of_isContainer h)
  simpa only [isContainer, body?_create, if_neg hx] using h

/-! ## Parents -/

theorem parent?_setParent {n : NodeId} (x : NodeId) (p : Option NodeId) (hn : n < s.size) :
    (s.setParent n p).parent? x = if x = n then p else s.parent? x := by
  obtain ⟨cell, hc⟩ := exists_cell hn
  simp only [parent?, getElem?_setParent]
  by_cases h : n = x
  · subst h; simp [hc]
  · simp [h, Ne.symm h]

@[simp] theorem parent?_setChildren (n x : NodeId) (l : List NodeId) :
    (s.setChildren n l).parent? x = s.parent? x := by
  simp only [parent?, getElem?_setChildren]
  cases s.cells[x]? <;> split <;> rfl

@[simp] theorem parent?_create (body : Body) (x : NodeId) :
    (create body s).2.parent? x = s.parent? x := by
  simp only [parent?, getElem?_create]
  split
  · subst x; simp [getElem?_eq_none (Nat.lt_irrefl s.size)]
  · rfl

/-! ## Children -/

@[simp] theorem children_setParent (n x : NodeId) (p : Option NodeId) :
    (s.setParent n p).children x = s.children x := by
  simp only [children_eq, getElem?_setParent]
  cases s.cells[x]? <;> split <;> rfl

theorem children_setChildren {n : NodeId} (x : NodeId) (l : List NodeId) (hn : n < s.size) :
    (s.setChildren n l).children x = if x = n then l else s.children x := by
  obtain ⟨cell, hc⟩ := exists_cell hn
  simp only [children_eq, getElem?_setChildren]
  by_cases h : n = x
  · subst h; simp [hc]
  · simp [h, Ne.symm h]

@[simp] theorem children_create (body : Body) (x : NodeId) :
    (create body s).2.children x = s.children x := by
  simp only [children_eq, getElem?_create]
  split
  · subst x; simp [getElem?_eq_none (Nat.lt_irrefl s.size)]
  · rfl

/-! ## Attributes -/

/-- The two stores have the same nodes with the same links, and the same nodes own children. -/
structure SameLinks (s t : Store) : Prop where
  size : t.size = s.size
  isContainer : ∀ x, t.isContainer x = s.isContainer x
  parent? : ∀ x, t.parent? x = s.parent? x
  children : ∀ x, t.children x = s.children x

theorem SameLinks.refl (s : Store) : SameLinks s s :=
  ⟨rfl, fun _ => rfl, fun _ => rfl, fun _ => rfl⟩

theorem SameLinks.trans {s t u : Store} (h : SameLinks s t) (k : SameLinks t u) : SameLinks s u :=
  ⟨k.size.trans h.size, fun x => (k.isContainer x).trans (h.isContainer x),
    fun x => (k.parent? x).trans (h.parent? x), fun x => (k.children x).trans (h.children x)⟩

theorem sameLinks_setBody {n : NodeId} {old new : Body} (hb : s.body? n = some old)
    (ho : new.ownsChildren = old.ownsChildren) : SameLinks s (s.setBody n new) := by
  refine ⟨Array.size_modify, fun x => ?_, fun x => ?_, fun x => ?_⟩
  · by_cases h : n = x
    · subst h
      obtain ⟨cell, hc, hcb⟩ := Option.map_eq_some_iff.mp hb
      simp [isContainer, body?, getElem?_setBody, hc, hcb, ho]
    · simp only [isContainer, body?, getElem?_setBody, if_neg h]
  · simp only [Store.parent?, getElem?_setBody]
    cases s.cells[x]? <;> split <;> rfl
  · simp only [children_eq, getElem?_setBody]
    cases s.cells[x]? <;> split <;> rfl

/-- Changing attributes changes no links. -/
theorem sameLinks_modifyAttributes (s : Store) (n : NodeId) (f : Attributes → Attributes) :
    SameLinks s (s.modifyAttributes n f) := by
  unfold modifyAttributes
  split
  · rename_i hb
    exact sameLinks_setBody hb rfl
  · exact SameLinks.refl s

theorem sameLinks_setAttributes (s : Store) (n : NodeId) (pairs : List (String × Value)) :
    SameLinks s (s.setAttributes n pairs) := by
  unfold setAttributes
  induction pairs generalizing s with
  | nil => exact SameLinks.refl s
  | cons a pairs ih => exact (sameLinks_modifyAttributes s n _).trans (ih _)

theorem sameLinks_removeAttribute (s : Store) (n : NodeId) (name : String) :
    SameLinks s (s.removeAttribute n name).2 := by
  unfold removeAttribute
  split
  · exact sameLinks_modifyAttributes s n _
  · exact SameLinks.refl s

end TypedMarkup.Store
