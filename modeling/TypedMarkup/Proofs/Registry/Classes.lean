import TypedMarkup.Registry
import TypedMarkup.Proofs.Entries
import TypedMarkup.Proofs.Text.Case

/-!
# Registries of element classes

A registry whose constructors are element classes (`Registry.OfClasses`): it is empty at first, and
definitions made from classes are added in any order. Each entry then describes its class
(`Definition.Describes`) and stands under the tag of the class in small letters (`entry_spec`), so
that what a tag finds is a class with that tag (`lookup?_spec`). A class that a single definition
registers has its tag in small letters (`RegisteredOnce.exists_definition`).
-/

namespace TypedMarkup

/-- The definition is what a declared class gives, under any class for the search in reverse. -/
structure Definition.Describes (d : Definition) (c : SemanticClass) : Prop where
  constructor : d.constructor = .ofClass c
  tag : d.tag = Text.lower c.tag
  declared : c.tag.isEmpty = false
  form : c.form ≠ .bare
  isVoid : d.isVoid = (c.form == .void)

/-- A class that declares a tag and says something about children makes a definition. -/
theorem Definition.make_of_declared {c : SemanticClass} (ht : c.tag.isEmpty = false)
    (hf : c.form ≠ .bare) (named : Option SemanticClass) (calls : Calls) :
    (Definition.make (.ofClass c) named calls).1 =
      .ok ⟨.ofClass c, named.getD c, Text.lower c.tag, c.form == .void⟩ := by
  simp only [make, Constructor.call, SemanticClass.instantiate, ht, Bool.false_eq_true, if_false,
    Except.map, bind, Except.bind, sample?]
  cases h : c.form with
  | bare => exact absurd h hf
  | container => rfl
  | void => rfl

/-- Other classes make none, and what a class makes describes it. -/
theorem Definition.make_ofClass {c : SemanticClass} {named : Option SemanticClass} {calls : Calls}
    {d : Definition} (h : (Definition.make (.ofClass c) named calls).1 = .ok d) :
    d.Describes c ∧ d.elementClass = named.getD c := by
  have hdeclared : c.tag.isEmpty = false ∧ c.form ≠ .bare := by
    simp only [make, Constructor.call, SemanticClass.instantiate] at h
    cases ht : c.tag.isEmpty <;> cases hf : c.form <;>
      simp [ht, hf, Except.map, bind, Except.bind, sample?] at h ⊢
  rw [make_of_declared hdeclared.1 hdeclared.2] at h
  rw [← Except.ok.inj h]
  exact ⟨⟨rfl, rfl, hdeclared.1, hdeclared.2, rfl⟩, rfl⟩

namespace Registry

/-- Tags are looked up in any case. -/
theorem lookup?_lower (r : Registry) (tag : String) :
    r.lookup? (Text.lower tag) = r.lookup? tag := by
  rw [lookup?, lookup?, Text.lower_isEmpty, Text.lower_lower]

/-- The registries that hold definitions made from element classes, after any additions. -/
inductive OfClasses : Registry → Prop where
  | empty : OfClasses empty
  | add {r : Registry} {c : SemanticClass} {named : Option SemanticClass} {calls : Calls}
      {d : Definition} : OfClasses r → (Definition.make (.ofClass c) named calls).1 = .ok d →
      OfClasses (r.add d).1

variable {r : Registry}

theorem OfClasses.nodup_names (h : OfClasses r) : (Entries.names r).Nodup := by
  induction h with
  | empty => exact List.nodup_nil
  | add _ _ ih => exact Entries.nodup_names_put ih

/-- Each entry describes a class and stands under its tag in small letters. -/
theorem OfClasses.entry_spec (h : OfClasses r) {key : String} {d : Definition}
    (hd : (key, d) ∈ r) : ∃ c, d.Describes c ∧ key = Text.lower c.tag := by
  induction h with
  | empty => simp [Registry.empty] at hd
  | @add r c _ _ new hr hm ih =>
    rcases (Entries.mem_put hr.nodup_names).mp hd with ⟨rfl, rfl⟩ | ⟨-, hold⟩
    · have hc := (Definition.make_ofClass hm).1
      exact ⟨c, hc, by rw [hc.tag, Text.lower_lower]⟩
    · exact ih hold

/-- A tag finds a definition of a class that has the same tag in small letters. -/
theorem OfClasses.lookup?_spec (h : OfClasses r) {tag : String} {d : Definition}
    (hd : r.lookup? tag = some d) :
    (Text.lower tag, d) ∈ r ∧ ∃ c, d.Describes c ∧ Text.lower tag = Text.lower c.tag := by
  unfold lookup? at hd
  split at hd
  · exact absurd hd (by simp)
  · have hm := Entries.mem_of_find? hd
    exact ⟨hm, h.entry_spec hm⟩

/-- The definition of an entry is found under any tag that is equal to its key in small letters. -/
theorem OfClasses.lookup?_of_mem (h : OfClasses r) {tag : String} {d : Definition}
    (hd : (Text.lower tag, d) ∈ r) : r.lookup? tag = some d := by
  obtain ⟨c, hc, htag⟩ := h.entry_spec hd
  have hne : tag.isEmpty = false := by
    rw [← Text.lower_isEmpty, htag, Text.lower_isEmpty]
    exact hc.declared
  rw [lookup?, hne]
  exact Entries.find?_of_mem h.nodup_names hd

/-! ## Classes that are registered as themselves -/

/-- A class is registered as itself by a definition which it constructs and which the search in
reverse finds under it. -/
def RegisteredAsItself (r : Registry) (c : SemanticClass) : Prop :=
  ∃ key d, (key, d) ∈ r ∧ d.constructor = .ofClass c ∧ d.elementClass = c

/-- Then the search in reverse finds a tag. -/
theorem RegisteredAsItself.exists_tag {c : SemanticClass} (h : r.RegisteredAsItself c) :
    ∃ tag, r.tagForClass c = .ok tag := by
  obtain ⟨key, d, hm, -, hclass⟩ := h
  have hfound : (List.find? (fun entry => entry.2.elementClass.name == c.name) r).isSome = true :=
    List.find?_isSome.mpr ⟨_, hm, by simp [hclass]⟩
  obtain ⟨entry, hentry⟩ := Option.isSome_iff_exists.mp hfound
  exact ⟨entry.2.tag, by rw [tagForClass]; simp only [hentry]⟩

/-! ## Classes that are registered once -/

/-- A class is registered by one definition alone, which constructs it. -/
def RegisteredOnce (r : Registry) (c : SemanticClass) : Prop :=
  ∃ key d, (key, d) ∈ r ∧ d.constructor = .ofClass c ∧ d.elementClass = c ∧
    ∀ entry ∈ r, entry.2.elementClass.name = c.name → entry = (key, d)

theorem RegisteredOnce.registeredAsItself {c : SemanticClass} (h : r.RegisteredOnce c) :
    r.RegisteredAsItself c := by
  obtain ⟨key, d, hm, hcons, hclass, -⟩ := h
  exact ⟨key, d, hm, hcons, hclass⟩

/-- The definition of a class that is registered once. -/
theorem RegisteredOnce.exists_definition {r : Registry} {c : SemanticClass}
    (hc : r.RegisteredOnce c) (hr : r.OfClasses) :
    ∃ d, (Text.lower c.tag, d) ∈ r ∧ d.Describes c ∧ r.tagForClass c = .ok (Text.lower c.tag) := by
  obtain ⟨key, d, hm, hcons, hclass, honly⟩ := hc
  obtain ⟨c', hd, hkey⟩ := hr.entry_spec hm
  obtain rfl : c = c' := by
    have h := hcons.symm.trans hd.constructor
    injection h
  subst hkey
  refine ⟨d, hm, hd, ?_⟩
  -- the search finds an entry, and no other entry has the class
  have hfound : (List.find? (fun entry => entry.2.elementClass.name == c.name) r).isSome = true :=
    List.find?_isSome.mpr ⟨_, hm, by simp [hclass]⟩
  obtain ⟨entry, hentry⟩ := Option.isSome_iff_exists.mp hfound
  have hname : entry.2.elementClass.name = c.name := by simpa using List.find?_some hentry
  have hentry' := honly entry (List.mem_of_find?_eq_some hentry) hname
  unfold tagForClass
  simp only [hentry, hentry']
  exact congrArg Except.ok hd.tag

end Registry

end TypedMarkup
