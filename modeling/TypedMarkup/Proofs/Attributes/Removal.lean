import TypedMarkup.Proofs.Attributes

/-!
# Taking out attributes

A name takes out the attribute that it reads. This is looked for twice: in two stages under the
given name, and then under the name that it is stored under, which may be spelled differently.

* `ReadsFrom`: which attribute a name reads, by its place among the others;
* `erase_of_readsFrom`: the second look finds this attribute and no other one;
* `remove_cases`: so a call takes out one attribute with a name that is equal in small letters, and
  nothing else (`countLike_remove`, `filter_remove`);
* `removeAttribute_takes_read`: what one call and several calls do to an element.
-/

namespace TypedMarkup

/-- Whether the name of the attribute is equal to `n` in small letters. -/
def Attribute.isLike (n : String) (a : Attribute) : Bool :=
  Text.lower a.name == Text.lower n

theorem Attribute.isLike_of_name {n : String} {a : Attribute} (h : a.name = n) :
    a.isLike n = true := by
  rw [isLike, h, beq_self_eq_true]

namespace Attributes

variable {as before after : Attributes} {a : Attribute} {n : String}

/-- The number of attributes whose name is equal to `n` in small letters. -/
def countLike (n : String) (as : Attributes) : Nat :=
  List.countP (Attribute.isLike n) as

/-! ## The attribute that a name reads -/

/-- The name `n` reads `a`, which stands behind `before` and ahead of `after`: it is stored under
exactly this name, or else none is and it is the first whose name is equal in small letters. -/
structure ReadsFrom (n : String) (before : Attributes) (a : Attribute) (after : Attributes) :
    Prop where
  like : a.isLike n = true
  first : (a.name = n ∧ ∀ b ∈ before, b.name ≠ n) ∨
    n ∉ names (before ++ a :: after) ∧ ∀ b ∈ before, b.isLike n = false

theorem exists_readsFrom (h : as.find? n = some a) :
    ∃ before after, as = before ++ a :: after ∧ ReadsFrom n before a after := by
  unfold find? at h
  split at h
  · rename_i b hb
    obtain rfl := Option.some.inj h
    rw [stored?, List.find?_eq_some_iff_append] at hb
    obtain ⟨hname, before, after, rfl, hbefore⟩ := hb
    have hn : b.name = n := by simpa using hname
    exact ⟨before, after, rfl, Attribute.isLike_of_name hn, .inl ⟨hn, by simpa using hbefore⟩⟩
  · rename_i hnone
    have hstored : n ∉ as.names := by
      rw [← firstText_eq_none_iff, firstText, ← stored?, hnone]
      rfl
    obtain ⟨hlike, before, after, rfl, hbefore⟩ := List.find?_eq_some_iff_append.mp h
    exact ⟨before, after, rfl, hlike, .inr ⟨hstored, by simpa [Attribute.isLike] using hbefore⟩⟩

/-- A name reads nothing when no name is equal to it in small letters. -/
theorem find?_eq_none_iff : as.find? n = none ↔ as.countLike n = 0 := by
  rw [countLike, List.countP_eq_zero]
  constructor
  · intro h a ha
    unfold find? at h
    split at h
    · exact absurd h (by simp)
    · exact List.find?_eq_none.mp h a ha
  · intro h
    cases hfind : as.find? n with
    | none => rfl
    | some a =>
      obtain ⟨before, after, rfl, hreads⟩ := exists_readsFrom hfind
      exact absurd hreads.like (h a (by simp))

theorem isSome_find?_iff : (as.find? n).isSome = true ↔ 0 < as.countLike n := by
  rw [← Decidable.not_iff_not, Bool.not_eq_true, Option.isSome_eq_false_iff,
    Option.isNone_iff_eq_none, find?_eq_none_iff, Nat.not_lt, Nat.le_zero]

/-! ## Taking out one attribute -/

theorem erase_append (h : ∀ b ∈ before, b.name ≠ n) (after : Attributes) :
    erase n (before ++ after) = before ++ erase n after := by
  induction before with
  | nil => rfl
  | cons b before ih =>
    obtain ⟨hb, hbefore⟩ := List.forall_mem_cons.mp h
    rw [List.cons_append, erase, if_neg hb, ih hbefore, List.cons_append]

/-- The attribute that a name reads is the first under its own name. -/
theorem erase_of_readsFrom (h : ReadsFrom n before a after) :
    erase a.name (before ++ a :: after) = before ++ after := by
  have hbefore : ∀ b ∈ before, b.name ≠ a.name := by
    intro b hb hname
    rcases h.first with ⟨ha, hfirst⟩ | ⟨-, hfirst⟩
    · exact hfirst b hb (hname.trans ha)
    · -- an attribute of the same name would have been read in its place
      have hlike : b.isLike n = a.isLike n := by rw [Attribute.isLike, Attribute.isLike, hname]
      rw [h.like, hfirst b hb] at hlike
      exact absurd hlike Bool.false_ne_true
  rw [erase_append hbefore, erase, if_pos rfl]

/-- A call takes out nothing, or the attribute that the name reads. -/
theorem remove_cases (n : String) (as : Attributes) :
    (as.countLike n = 0 ∧ as.remove n = (as, none)) ∨
      ∃ before a after, as = before ++ a :: after ∧ ReadsFrom n before a after ∧
        as.get? n = some a.value ∧
        as.remove n = (before ++ after, some { a with owner := none }) := by
  cases hfind : as.find? n with
  | none => exact .inl ⟨find?_eq_none_iff.mp hfind, by rw [remove, hfind]⟩
  | some a =>
    obtain ⟨before, after, rfl, hreads⟩ := exists_readsFrom hfind
    refine .inr ⟨before, a, after, rfl, hreads, by rw [get?, hfind]; rfl, ?_⟩
    rw [remove, hfind]
    simp only [erase_of_readsFrom hreads]

theorem countLike_remove (n : String) (as : Attributes) :
    (as.remove n).1.countLike n = as.countLike n - 1 := by
  rcases remove_cases n as with ⟨hzero, hremove⟩ | ⟨before, a, after, rfl, hreads, -, hremove⟩
  · rw [hremove, hzero]
  · rw [hremove]
    simp only [countLike, List.countP_append, List.countP_cons_of_pos hreads.like]
    omega

/-- Attributes under other names stay as they are, in the same order. -/
theorem filter_remove (n : String) (as : Attributes) :
    (as.remove n).1.filter (fun a => !a.isLike n) = as.filter fun a => !a.isLike n := by
  rcases remove_cases n as with ⟨-, hremove⟩ | ⟨before, a, after, rfl, hreads, -, hremove⟩
  · rw [hremove]
  · rw [hremove, List.filter_append, List.filter_append,
      List.filter_cons_of_neg (by simp [hreads.like])]

end Attributes

/-! ## Attributes of an element -/

namespace Store

variable {s : Store} {e : NodeId} {as : Attributes}

/-- Giving an element the attributes that it has changes nothing. -/
theorem modifyAttributes_self (has : s.attributes? e = some as) :
    s.modifyAttributes e (fun _ => as) = s := by
  unfold modifyAttributes
  split
  · rename_i type tag bs hbody
    rw [attributes?, hbody] at has
    obtain rfl := Option.some.inj has
    refine congrArg Store.mk (Array.ext_getElem? fun x => ?_)
    rw [Array.getElem?_modify]
    split
    · subst x
      obtain ⟨cell, hcell, hcb⟩ := Option.map_eq_some_iff.mp hbody
      rw [hcell, Option.map_some, ← hcb]
    · rfl
  · rfl

/-- Several calls that take out what `n` reads leave that many attributes fewer under names that
are equal to it in small letters, until there is none. -/
theorem attributes?_removeAgain (has : s.attributes? e = some as) (n : String) (i : Nat) :
    ∃ bs, (s.changeAttributes e (.replicate i (.remove n))).attributes? e = some bs ∧
      bs.countLike n = as.countLike n - i ∧
      bs.filter (fun a => !a.isLike n) = as.filter fun a => !a.isLike n := by
  induction i generalizing s as with
  | zero => exact ⟨as, has, rfl, rfl⟩
  | succ i ih =>
    obtain ⟨bs, hbs, hcount, hothers⟩ := ih (attributes?_removeAttribute has n)
    refine ⟨bs, hbs, ?_, hothers.trans (Attributes.filter_remove n as)⟩
    rw [hcount, Attributes.countLike_remove, Nat.sub_sub, Nat.add_comm]

/-! ## Main statement -/

/-- A call that takes out what `n` reads, in any state of an element: where no name is equal to `n`
in small letters it changes nothing; else it takes out the attribute stored under exactly `n` or, if
there is none, the first of these, which is the one whose text `n` reads. This attribute then
belongs to no element, the others stay in order with their texts and owners, and so does all else in
the store. After `i` calls there are `i` fewer of these attributes, or none, so that `n` reads something
after fewer calls than there were of them, and then no more. -/
theorem removeAttribute_takes_read (has : s.attributes? e = some as) (n : String) :
    (as.countLike n = 0 → s.removeAttribute e n = (none, s)) ∧
    (0 < as.countLike n → ∃ before a after, as = before ++ a :: after ∧
      Attributes.ReadsFrom n before a after ∧ as.get? n = some a.value ∧
      (s.removeAttribute e n).1 = some { a with owner := none } ∧
      (s.removeAttribute e n).2.attributes? e = some (before ++ after)) ∧
    SameLinks s (s.removeAttribute e n).2 ∧
    (∀ x, x ≠ e → (s.removeAttribute e n).2.body? x = s.body? x) ∧
    ∀ i, ∃ bs, (s.changeAttributes e (.replicate i (.remove n))).attributes? e = some bs ∧
      bs.countLike n = as.countLike n - i ∧
      ((bs.find? n).isSome = true ↔ i < as.countLike n) ∧
      bs.filter (fun a => !a.isLike n) = as.filter fun a => !a.isLike n := by
  have hcall : s.removeAttribute e n =
      ((as.remove n).2, s.modifyAttributes e fun _ => (as.remove n).1) := by
    rw [removeAttribute, has]
  refine ⟨fun hzero => ?_, fun hpos => ?_, sameLinks_removeAttribute s e n, fun x hx => ?_,
    fun i => ?_⟩
  · rcases Attributes.remove_cases n as with ⟨-, hremove⟩ | ⟨_, _, _, rfl, hreads, -⟩
    · rw [hcall, hremove, modifyAttributes_self has]
    · simp [Attributes.countLike, hreads.like] at hzero
  · rcases Attributes.remove_cases n as with
      ⟨hzero, -⟩ | ⟨before, a, after, hsplit, hreads, hget, hremove⟩
    · exact absurd hzero (Nat.ne_of_gt hpos)
    · refine ⟨before, a, after, hsplit, hreads, hget, by rw [hcall, hremove], ?_⟩
      rw [attributes?_removeAttribute has, hremove]
  · rw [hcall]
    exact body?_modifyAttributes_of_ne hx _
  · obtain ⟨bs, hbs, hcount, hothers⟩ := attributes?_removeAgain has n i
    refine ⟨bs, hbs, hcount, ?_, hothers⟩
    rw [Attributes.isSome_find?_iff, hcount, Nat.sub_pos_iff_lt]

/-- Changes that leave three spellings of a name, the first in its own letters last. -/
def spellings : List AttributeChange :=
  [.set "Id" (.int 1), .set "class" (.text "a"), .setAll [("ID", .text "x"), ("id", .text "y")]]

/-- What a new division then has. -/
def spelled : Attributes :=
  [⟨"Id", "1", some 0⟩, ⟨"class", "a", some 0⟩, ⟨"ID", "x", some 0⟩, ⟨"id", "y", some 0⟩]

/-- The first call takes out the last attribute, and three calls take out all but the class. -/
theorem removeAttribute_takes_read_spelled :
    (newDivision.changeAttributes 0 spellings).attributes? 0 = some spelled ∧
      ((newDivision.changeAttributes 0 spellings).removeAttribute 0 "id").1 =
        some ⟨"id", "y", none⟩ ∧
      ∀ i, ∃ bs, ((newDivision.changeAttributes 0 spellings).changeAttributes 0
          (.replicate i (.remove "id"))).attributes? 0 = some bs ∧
        ((bs.find? "id").isSome = true ↔ i < 3) ∧
        bs.filter (fun a => !a.isLike "id") = [⟨"class", "a", some 0⟩] := by
  have has : (newDivision.changeAttributes 0 spellings).attributes? 0 = some spelled := rfl
  have hcount : spelled.countLike "id" = 3 := by decide +kernel
  obtain ⟨-, htaken, -, -, hagain⟩ := removeAttribute_takes_read has "id"
  obtain ⟨before, a, after, hsplit, hreads, hget, hanswer, -⟩ := htaken (by rw [hcount]; decide)
  refine ⟨has, ?_, fun i => ?_⟩
  · -- the name is stored exactly, so it is not the first of the spellings that is read
    have hname : a.name = "id" := by
      rcases hreads.first with ⟨hname, -⟩ | ⟨hstored, -⟩
      · exact hname
      · rw [← hsplit] at hstored
        exact absurd (show "id" ∈ spelled.names by decide) hstored
    have hvalue : spelled.get? "id" = some "y" := by decide +kernel
    rw [hanswer, hname, Option.some.inj (hget.symm.trans hvalue)]
  · obtain ⟨bs, hbs, -, hreads, hothers⟩ := hagain i
    rw [hcount] at hreads
    exact ⟨bs, hbs, hreads, hothers.trans (by decide +kernel)⟩

end Store

end TypedMarkup
