import TypedMarkup.Store.Walk
import TypedMarkup.Proofs.Store.Run

/-!
# What nodes keep

A node never changes its kind: no operation makes another node of it. Moves change links alone, so
that every node keeps its body whether they succeed or fail (`SameBodies`, on any store). Writing and
removing attributes changes a body, but not the tag in it. So the tag that an element was made with
stays its tag, whatever is done to the store (`tag?_after`).
-/

namespace TypedMarkup.Store

variable {s t u : Store} {n x : NodeId}

/-! ## Moves -/

/-- `t` has the nodes of `s`, each with its body. -/
structure SameBodies (s t : Store) : Prop where
  size : t.size = s.size
  body? : ∀ x, t.body? x = s.body? x

theorem SameBodies.refl (s : Store) : SameBodies s s :=
  ⟨rfl, fun _ => rfl⟩

theorem SameBodies.trans (h : SameBodies s t) (k : SameBodies t u) : SameBodies s u :=
  ⟨k.size.trans h.size, fun x => (k.body? x).trans (h.body? x)⟩

theorem sameBodies_setParent (s : Store) (n : NodeId) (p : Option NodeId) :
    SameBodies s (s.setParent n p) :=
  ⟨size_setParent n p, fun x => body?_setParent n x p⟩

theorem sameBodies_setChildren (s : Store) (n : NodeId) (l : List NodeId) :
    SameBodies s (s.setChildren n l) :=
  ⟨size_setChildren n l, fun x => body?_setChildren n x l⟩

theorem removeChild_sameBodies (s : Store) (p c : NodeId) :
    SameBodies s (s.removeChild p c).store := by
  unfold removeChild
  split
  · exact .refl s
  · split
    · exact (sameBodies_setChildren s p _).trans (sameBodies_setParent _ c none)
    · exact .refl s

theorem detach_sameBodies (s : Store) (c : NodeId) : SameBodies s (s.detach c).store := by
  unfold detach
  split
  · exact .refl s
  · exact removeChild_sameBodies s _ c

theorem appendChild_sameBodies (s : Store) (p c : NodeId) :
    SameBodies s (s.appendChild p c).store := by
  have h := detach_sameBodies s c
  unfold appendChild
  split
  · exact .refl s
  · split <;> rename_i hd <;> rw [hd] at h
    · exact h
    · exact h.trans ((sameBodies_setParent _ c _).trans (sameBodies_setChildren _ p _))

theorem insertBefore_sameBodies (s : Store) (p c : NodeId) (r : Option NodeId) :
    SameBodies s (s.insertBefore p c r).store := by
  have h := detach_sameBodies s c
  unfold insertBefore
  split
  · exact .refl s
  · split
    · exact appendChild_sameBodies s p c
    · split
      · exact .refl s
      · split <;> rename_i hd <;> rw [hd] at h
        · exact h
        · have hparent := h.trans (sameBodies_setParent _ c (some p))
          -- the place is looked up last, and where there is none the node still points to `p`
          dsimp only
          split
          · exact hparent.trans (sameBodies_setChildren _ p _)
          · exact hparent

theorem appendAll_sameBodies (s : Store) (p : NodeId) (content : List (Option NodeId)) :
    SameBodies s (s.appendAll p content).store := by
  induction content generalizing s with
  | nil => exact .refl s
  | cons c content ih =>
    cases c with
    | none => exact ih s
    | some c =>
      have h := appendChild_sameBodies s p c
      rw [appendAll]
      split <;> rename_i ha <;> rw [ha] at h
      · exact h
      · exact h.trans (ih _)

theorem addContent_sameBodies (s : Store) (p : NodeId) (content : List (Option NodeId)) :
    SameBodies s (s.addContent p content).store := by
  unfold addContent
  split
  · exact .refl s
  · exact appendAll_sameBodies s p content

/-! ## Attributes -/

/-- Changing attributes changes no tag. -/
theorem tag?_modifyAttributes (s : Store) (n x : NodeId) (f : Attributes → Attributes) :
    (s.modifyAttributes n f).tag? x = s.tag? x := by
  by_cases h : x = n
  · subst h
    unfold modifyAttributes
    split
    · rename_i type tag as hbody
      simp only [tag?, body?_setBody, if_pos, hbody, Option.map_some]
    · rfl
  · simp only [tag?, body?_modifyAttributes_of_ne h]

theorem tag?_setAttributes (s : Store) (n x : NodeId) (pairs : List (String × Value)) :
    (s.setAttributes n pairs).tag? x = s.tag? x := by
  unfold setAttributes
  induction pairs generalizing s with
  | nil => rfl
  | cons p pairs ih => exact (ih _).trans (tag?_modifyAttributes s n x _)

theorem tag?_removeAttribute (s : Store) (n x : NodeId) (name : String) :
    (s.removeAttribute n name).2.tag? x = s.tag? x := by
  unfold removeAttribute
  split
  · exact tag?_modifyAttributes s n x _
  · rfl

/-! ## Operations -/

/-- `t` has the nodes of `s`, each with its tag if it is an element; it may have others. -/
structure KeepsTags (s t : Store) : Prop where
  size : s.size ≤ t.size
  tag? : ∀ x < s.size, t.tag? x = s.tag? x

theorem KeepsTags.refl (s : Store) : KeepsTags s s :=
  ⟨Nat.le_refl _, fun _ _ => rfl⟩

theorem KeepsTags.trans (h : KeepsTags s t) (k : KeepsTags t u) : KeepsTags s u :=
  ⟨Nat.le_trans h.size k.size,
    fun x hx => (k.tag? x (Nat.lt_of_lt_of_le hx h.size)).trans (h.tag? x hx)⟩

theorem SameBodies.keepsTags (h : SameBodies s t) : KeepsTags s t :=
  ⟨Nat.le_of_eq h.size.symm, fun x _ => by simp only [Store.tag?, h.body?]⟩

theorem keepsTags_create (s : Store) (body : Body) : KeepsTags s (s.create body).2 where
  size := by rw [size_create]; exact Nat.le_succ _
  tag? x hx := by simp only [Store.tag?, body?_create, if_neg (Nat.ne_of_lt hx)]

theorem Operation.run_keepsTags (s : Store) (op : Operation) : KeepsTags s (op.run s).store := by
  cases op with
  | create body => exact keepsTags_create s body
  | setAttributes n pairs =>
    rw [run]
    split
    · exact ⟨Nat.le_of_eq (sameLinks_setAttributes s n pairs).size.symm,
        fun x _ => tag?_setAttributes s n x pairs⟩
    · exact .refl s
  | removeAttribute n name =>
    rw [run]
    split
    · exact ⟨Nat.le_of_eq (sameLinks_removeAttribute s n name).size.symm,
        fun x _ => tag?_removeAttribute s n x name⟩
    · exact .refl s
  | append p c => exact (appendChild_sameBodies s p c).keepsTags
  | insertBefore p c r => exact (insertBefore_sameBodies s p c r).keepsTags
  | remove p c => exact (removeChild_sameBodies s p c).keepsTags
  | addContent p content => exact (addContent_sameBodies s p content).keepsTags

/-- The store that operations leave which are performed in turn, whether they fail or not. -/
def after (s : Store) (ops : List Operation) : Store :=
  ops.foldl (fun s op => (op.run s).store) s

theorem after_keepsTags (s : Store) (ops : List Operation) : KeepsTags s (s.after ops) := by
  induction ops generalizing s with
  | nil => exact .refl s
  | cons op ops ih => exact (op.run_keepsTags s).trans (ih _)

/-- A node that is an element exists. -/
theorem lt_size_of_tag? {tag : String} (h : s.tag? x = some tag) : x < s.size :=
  Decidable.byContradiction fun hx => by simp [tag?, body?, getElem?_eq_none hx] at h

/-- An element keeps its tag. -/
theorem tag?_after {tag : String} (h : s.tag? x = some tag) (ops : List Operation) :
    (s.after ops).tag? x = some tag :=
  ((after_keepsTags s ops).tag? x (lt_size_of_tag? h)).trans h

end TypedMarkup.Store
