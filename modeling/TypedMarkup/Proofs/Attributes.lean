import TypedMarkup.Proofs.Entries
import TypedMarkup.Proofs.Store.Views
import Mathlib.Data.List.TakeWhile

/-!
# Reading and writing attributes

Attributes are written under their exact names and read up to case where no name is exactly equal.
So writing under one spelling can change what another one reads.

* `pairs_set`, `names_set`: writing is putting an entry: a stored name keeps its place, a new one
  goes last;
* `firstText_set`: the first text under names with a property, after writing, in terms of what
  stands ahead of the name that was written (`aheadOf`), by induction on the attributes;
* `get?_set`: what each name reads after writing; both ways to find a name are cases of
  `firstText`;
* `AttributeChange`: what changes the attributes of an element, and `setAttribute_reads`: what
  writing does to an element after any changes.
-/

namespace TypedMarkup

/-! ## Attributes in order -/

namespace Attributes

variable {as : Attributes} {n m : String}

/-- The names, in order. -/
def names (as : Attributes) : List String :=
  as.map Attribute.name

theorem names_pairs (as : Attributes) : Entries.names as.pairs = as.names :=
  List.map_map

/-- Setting an attribute puts its text under its name. -/
theorem pairs_set (owner : Option NodeId) (name text : String) (as : Attributes) :
    (as.set owner name text).pairs = Entries.put name text as.pairs := by
  induction as with
  | nil => rfl
  | cons a as ih =>
    simp only [set, pairs, List.map_cons, Entries.put]
    split
    · rfl
    · exact congrArg _ ih

theorem names_set (owner : Option NodeId) (n text : String) (as : Attributes) :
    (as.set owner n text).names = if n ∈ as.names then as.names else as.names ++ [n] := by
  rw [← names_pairs, pairs_set, Entries.names_put, names_pairs]

theorem nodup_names_set (h : as.names.Nodup) (owner : Option NodeId) (n text : String) :
    (as.set owner n text).names.Nodup := by
  rw [← names_pairs] at h ⊢
  rw [pairs_set]
  exact Entries.nodup_names_put h

theorem erase_sublist (n : String) (as : Attributes) : (as.erase n).Sublist as := by
  induction as with
  | nil => exact .slnil
  | cons a as ih =>
    rw [erase]
    split
    · exact List.sublist_cons_self ..
    · exact ih.cons_cons a

theorem nodup_names_remove (h : as.names.Nodup) (n : String) : (as.remove n).1.names.Nodup := by
  unfold remove
  split
  · exact h.sublist ((erase_sublist _ as).map _)
  · exact h

/-! ## The first text under names with a property -/

/-- The text of the first attribute with a wanted name. -/
def firstText (wanted : String → Bool) (as : Attributes) : Option String :=
  (List.find? (fun a => wanted a.name) as).map Attribute.value

/-- A name reads the text under exactly this name, or else the first under a name that is equal in
small letters. -/
theorem get?_eq (n : String) (as : Attributes) :
    as.get? n =
      (as.firstText (· == n)).or (as.firstText fun k => Text.lower k == Text.lower n) := by
  rw [get?, find?, firstText, firstText, ← stored?]
  cases as.stored? n <;> rfl

theorem firstText_eq_none_iff : as.firstText (· == n) = none ↔ n ∉ as.names := by
  rw [firstText, Option.map_eq_none_iff, List.find?_eq_none, names, List.mem_map]
  simp

/-- What stands ahead of the attribute stored under exactly this name; all attributes if there is
none. -/
def aheadOf (n : String) (as : Attributes) : Attributes :=
  as.takeWhile fun a => a.name != n

theorem aheadOf_cons_self {a : Attribute} (h : a.name = n) : aheadOf n (a :: as) = [] :=
  List.takeWhile_cons_of_neg (by simpa using h)

theorem aheadOf_cons_of_ne {a : Attribute} (h : a.name ≠ n) :
    aheadOf n (a :: as) = a :: as.aheadOf n :=
  List.takeWhile_cons_of_pos (by simpa using h)

theorem ne_of_mem_aheadOf {a : Attribute} (h : a ∈ as.aheadOf n) : a.name ≠ n := by
  simpa using List.mem_takeWhile_imp h

theorem aheadOf_set (owner : Option NodeId) (n text : String) (as : Attributes) :
    (as.set owner n text).aheadOf n = as.aheadOf n := by
  induction as with
  | nil => exact aheadOf_cons_self rfl
  | cons a as ih =>
    rw [set]
    split
    · rename_i h
      rw [aheadOf_cons_self h]
      exact aheadOf_cons_self h
    · rename_i h
      rw [aheadOf_cons_of_ne h, aheadOf_cons_of_ne h, ih]

theorem firstText_cons (wanted : String → Bool) (a : Attribute) (as : Attributes) :
    firstText wanted (a :: as) = if wanted a.name then some a.value else as.firstText wanted := by
  rw [firstText, List.find?_cons]
  cases wanted a.name <;> rfl

theorem firstText_eq_find?_pairs (n : String) (as : Attributes) :
    as.firstText (· == n) = Entries.find? n as.pairs := by
  induction as with
  | nil => rfl
  | cons a as ih =>
    rw [firstText_cons, ih]
    exact if_congr beq_iff_eq rfl rfl

/-- A name reads the text that is stored under exactly this name. -/
theorem get?_of_find?_pairs {text : String} (h : Entries.find? n as.pairs = some text) :
    as.get? n = some text := by
  rw [get?_eq, firstText_eq_find?_pairs, h, Option.some_or]

/-- After writing under `n` the first text under a wanted name is the new one if `n` is wanted and
no name ahead of it is; else it is the old one. -/
theorem firstText_set (wanted : String → Bool) (owner : Option NodeId) (n text : String)
    (as : Attributes) :
    (as.set owner n text).firstText wanted =
      if wanted n = true ∧ ∀ a ∈ as.aheadOf n, wanted a.name = false then some text
      else as.firstText wanted := by
  induction as with
  | nil => simp [set, firstText_cons, aheadOf]
  | cons a as ih =>
    rw [set]
    by_cases ha : a.name = n
    · -- the attribute itself: nothing stands ahead of it
      rw [if_pos ha, aheadOf_cons_self ha, firstText_cons, firstText_cons, ha]
      cases wanted n <;> simp
    · simp only [if_neg ha, aheadOf_cons_of_ne ha, firstText_cons, ih, List.forall_mem_cons]
      cases wanted a.name <;> simp

/-! ## Reading after writing -/

/-- The name `m` falls back to what is written under `n`: it is not stored itself, both are equal in
small letters, and no name ahead of `n` is equal to `m` in small letters. -/
def FallsTo (m n : String) (as : Attributes) : Prop :=
  m ∉ as.names ∧ Text.lower n = Text.lower m ∧
    ∀ a ∈ as.aheadOf n, Text.lower a.name ≠ Text.lower m

instance (m n : String) (as : Attributes) : Decidable (as.FallsTo m n) :=
  inferInstanceAs (Decidable (_ ∧ _ ∧ ∀ a ∈ as.aheadOf n, _))

/-- Writing under `n` changes what `n` reads, and what reads it by falling back to it. -/
theorem get?_set (owner : Option NodeId) (n text m : String) (as : Attributes) :
    (as.set owner n text).get? m = if m = n ∨ as.FallsTo m n then some text else as.get? m := by
  rw [get?_eq, get?_eq, firstText_set, firstText_set]
  by_cases hm : m = n
  · subst hm
    have ahead : ∀ a ∈ as.aheadOf m, (a.name == m) = false := fun a ha => by
      simpa using ne_of_mem_aheadOf ha
    rw [if_pos ⟨beq_self_eq_true m, ahead⟩, Option.some_or, if_pos (.inl rfl)]
  have hexact : (n == m) = false := by simpa using Ne.symm hm
  rw [if_neg fun h => by simp [hexact] at h]
  by_cases hstored : m ∈ as.names
  · -- the name is stored, so it does not fall back to another
    have hsome : as.firstText (· == m) ≠ none := fun h => firstText_eq_none_iff.mp h hstored
    obtain ⟨text', htext⟩ := Option.ne_none_iff_exists'.mp hsome
    rw [htext, Option.some_or, Option.some_or, if_neg fun h => h.elim hm fun h => h.1 hstored]
  · rw [firstText_eq_none_iff.mpr hstored, Option.none_or, Option.none_or]
    have hfalls : (Text.lower n == Text.lower m) = true ∧
          (∀ a ∈ as.aheadOf n, (Text.lower a.name == Text.lower m) = false) ↔
        m = n ∨ as.FallsTo m n := by
      simp only [FallsTo, hm, hstored, beq_iff_eq, beq_eq_false_iff_ne, false_or, not_false_eq_true,
        true_and, ne_eq]
    exact if_congr hfalls rfl rfl

end Attributes

/-! ## Attributes of an element -/

namespace Store

variable {s : Store} {e : NodeId}

theorem attributes?_modifyAttributes (s : Store) (e : NodeId) (f : Attributes → Attributes) :
    (s.modifyAttributes e f).attributes? e = (s.attributes? e).map f := by
  unfold modifyAttributes
  split
  · rename_i type tag as hbody
    have hnew : (s.setBody e (.element type tag (f as))).body? e =
        some (.element type tag (f as)) := by
      obtain ⟨cell, hcell, -⟩ := Option.map_eq_some_iff.mp hbody
      rw [body?, getElem?_setBody, if_pos rfl, hcell]
      rfl
    rw [attributes?, hnew, attributes?, hbody]
    rfl
  · rename_i h
    have hnone : s.attributes? e = none := by
      unfold attributes?
      split
      · exact absurd ‹_› (h _ _ _)
      · rfl
    rw [hnone]
    rfl

theorem attributes?_setAttribute {as : Attributes} (h : s.attributes? e = some as) (n : String)
    (v : Value) :
    (s.setAttribute e n v).attributes? e = some (as.set (some e) n v.attributeText) := by
  rw [setAttribute, attributes?_modifyAttributes, h]
  rfl

theorem attributes?_removeAttribute {as : Attributes} (h : s.attributes? e = some as) (n : String) :
    (s.removeAttribute e n).2.attributes? e = some (as.remove n).1 := by
  simp only [Store.removeAttribute, h]
  rw [attributes?_modifyAttributes, h]
  rfl

/-- What changes the attributes of an element. -/
inductive AttributeChange where
  | set (name : String) (value : Value)
  | setAll (pairs : List (String × Value))
  | remove (name : String)

/-- Makes a change to the element `e`. -/
def AttributeChange.run (e : NodeId) (s : Store) : AttributeChange → Store
  | set name value => s.setAttribute e name value
  | setAll pairs => s.setAttributes e pairs
  | remove name => (s.removeAttribute e name).2

/-- Makes changes to the element `e` in turn. -/
def changeAttributes (s : Store) (e : NodeId) (changes : List AttributeChange) : Store :=
  changes.foldl (AttributeChange.run e) s

/-- The node `e` is an element, and its attributes have distinct names. -/
def NamesDistinct (s : Store) (e : NodeId) : Prop :=
  ∃ as, s.attributes? e = some as ∧ as.names.Nodup

theorem NamesDistinct.setAttribute (h : NamesDistinct s e) (n : String) (v : Value) :
    NamesDistinct (s.setAttribute e n v) e := by
  obtain ⟨as, has, hnodup⟩ := h
  exact ⟨_, attributes?_setAttribute has n v, Attributes.nodup_names_set hnodup ..⟩

theorem NamesDistinct.setAttributes (h : NamesDistinct s e) (pairs : List (String × Value)) :
    NamesDistinct (s.setAttributes e pairs) e := by
  unfold Store.setAttributes
  induction pairs generalizing s with
  | nil => exact h
  | cons p pairs ih => exact ih (h.setAttribute p.1 p.2)

theorem NamesDistinct.removeAttribute (h : NamesDistinct s e) (n : String) :
    NamesDistinct (s.removeAttribute e n).2 e := by
  obtain ⟨as, has, hnodup⟩ := h
  exact ⟨_, attributes?_removeAttribute has n, Attributes.nodup_names_remove hnodup n⟩

theorem NamesDistinct.run (h : NamesDistinct s e) (change : AttributeChange) :
    NamesDistinct (change.run e s) e := by
  cases change with
  | set name value => exact h.setAttribute name value
  | setAll pairs => exact h.setAttributes pairs
  | remove name => exact h.removeAttribute name

theorem NamesDistinct.changeAttributes (h : NamesDistinct s e) (changes : List AttributeChange) :
    NamesDistinct (s.changeAttributes e changes) e := by
  unfold Store.changeAttributes
  induction changes generalizing s with
  | nil => exact h
  | cons change changes ih => exact ih (h.run change)

/-! ## Main statement -/

/-- After any changes to a new element, writing a value under `n` gives what `n` reads. The names are
then distinct and in their old order, with `n` last if it is new. Another name `m` reads something
else than before only if it is not stored exactly, is equal to `n` in small letters, and no name
ahead of `n` is equal to it in small letters; and where this is so it reads the new text. -/
theorem setAttribute_reads (new : s.attributes? e = some []) (changes : List AttributeChange)
    (n : String) (v : Value) :
    ∃ as bs, (s.changeAttributes e changes).attributes? e = some as ∧
      ((s.changeAttributes e changes).setAttribute e n v).attributes? e = some bs ∧
      bs.get? n = some v.attributeText ∧ bs.names.Nodup ∧
      bs.names = (if n ∈ as.names then as.names else as.names ++ [n]) ∧
      ∀ m, m ≠ n →
        (bs.get? m ≠ as.get? m → m ∉ as.names ∧ Text.lower n = Text.lower m ∧
          ∀ a ∈ bs.aheadOf n, Text.lower a.name ≠ Text.lower m) ∧
        (m ∉ as.names → Text.lower n = Text.lower m →
          (∀ a ∈ bs.aheadOf n, Text.lower a.name ≠ Text.lower m) →
          bs.get? m = some v.attributeText) := by
  have start : NamesDistinct s e := ⟨[], new, List.nodup_nil⟩
  obtain ⟨as, has, hnodup⟩ := start.changeAttributes changes
  refine ⟨as, _, has, attributes?_setAttribute has n v, ?_, Attributes.nodup_names_set hnodup ..,
    Attributes.names_set .., fun m hm => ⟨fun hchanged => ?_, fun hstored hlower hahead => ?_⟩⟩
  · rw [Attributes.get?_set, if_pos (.inl rfl)]
  · rw [Attributes.get?_set] at hchanged
    rw [Attributes.aheadOf_set]
    by_contra hkeeps
    exact hchanged (if_neg fun h => h.elim hm hkeeps)
  · rw [Attributes.aheadOf_set] at hahead
    rw [Attributes.get?_set, if_pos (.inr ⟨hstored, hlower, hahead⟩)]

/-- A store that holds one new division. -/
def newDivision : Store :=
  (empty.create (.element (.standard .blockContainer) "div" [])).2

/-- Changes that leave a class and, after it, an identifier in capital letters. -/
def respellings : List AttributeChange :=
  [.set "Id" (.int 1), .setAll [("class", .bool true), ("ID", .text "x")], .remove "id"]

/-- Writing under `ID` changes what `id` reads. -/
theorem setAttribute_reads_respelled :
    newDivision.attributes? 0 = some [] ∧
      ∃ as bs : Attributes, (newDivision.changeAttributes 0 respellings).attributes? 0 = some as ∧
        ((newDivision.changeAttributes 0 respellings).setAttribute 0 "ID" (.text "y")).attributes? 0
          = some bs ∧
        bs.names = ["class", "ID"] ∧ as.get? "id" = some "x" ∧ bs.get? "id" = some "y" := by
  have new : newDivision.attributes? 0 = some [] := rfl
  obtain ⟨as, bs, has, hbs, -, -, -, hreads⟩ :=
    setAttribute_reads new respellings "ID" (.text "y")
  obtain rfl : as = [⟨"class", "True", some 0⟩, ⟨"ID", "x", some 0⟩] :=
    Option.some.inj (has.symm.trans (by decide +kernel))
  obtain rfl : bs = [⟨"class", "True", some 0⟩, ⟨"ID", "y", some 0⟩] :=
    Option.some.inj (hbs.symm.trans (by decide +kernel))
  refine ⟨new, _, _, has, hbs, rfl, by decide +kernel, ?_⟩
  exact (hreads "id" (by decide)).2 (by decide) (by decide +kernel) (by decide +kernel)

end Store

end TypedMarkup
