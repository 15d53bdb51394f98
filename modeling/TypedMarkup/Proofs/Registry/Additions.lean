import TypedMarkup.Proofs.Registry.Classes
import Mathlib.Data.Finset.Card
import Mathlib.Data.List.Induction

/-!
# Registries after additions

What a registry shows when definitions have been added to it in turn, in terms of the definitions
alone. A tag finds the last of the definitions for it (`lookup?_ofDefinitions`), the names are the
tags in the order in which they first came (`tagNames_ofDefinitions`), and there is one entry for
each tag (`length_ofDefinitions`).

A registry is a list of entries that are put in turn (`ofDefinitions_eq_ofList`), and its views are
those of such entries. The last section says which changes to the additions no look-up shows.
-/

namespace TypedMarkup

/-- Whether a definition is for a tag, in any case. -/
def Definition.isFor (tag : String) (d : Definition) : Bool :=
  Text.lower d.tag == Text.lower tag

theorem Definition.isFor_lower (d : Definition) (tag : String) :
    d.isFor (Text.lower tag) = d.isFor tag := by
  rw [isFor, isFor, Text.lower_lower]

/-- The name under which a registry keeps a definition. -/
def Definition.key (d : Definition) : String :=
  Text.lower d.tag

/-- A definition made from an element class. -/
def Definition.OfClass (d : Definition) : Prop :=
  ∃ c named calls, (Definition.make (.ofClass c) named calls).1 = .ok d

theorem Definition.ofClass_of_declared {c : SemanticClass} (ht : c.tag.isEmpty = false)
    (hf : c.form ≠ .bare) : OfClass ⟨.ofClass c, c, Text.lower c.tag, c.form == .void⟩ :=
  ⟨c, none, [], make_of_declared ht hf none []⟩

theorem Definition.OfClass.lower_tag {d : Definition} (h : d.OfClass) :
    Text.lower d.tag = d.tag := by
  obtain ⟨c, named, calls, hd⟩ := h
  rw [(Definition.make_ofClass hd).1.tag, Text.lower_lower]

namespace Registry

variable {ds es : List Definition} {tag : String}

theorem ofDefinitions_concat (ds : List Definition) (d : Definition) :
    ofDefinitions (ds ++ [d]) = ((ofDefinitions ds).add d).1 := by
  rw [ofDefinitions, List.foldl_concat, ← ofDefinitions]

/-- To add definitions in turn is to put each under its key. -/
theorem ofDefinitions_eq_ofList (ds : List Definition) :
    ofDefinitions ds = Entries.ofList (ds.map fun d => (d.key, d)) := by
  rw [Entries.ofList, List.foldl_map]
  rfl

theorem ofClasses_ofDefinitions (h : ∀ d ∈ ds, d.OfClass) : (ofDefinitions ds).OfClasses := by
  induction ds using List.reverseRecOn with
  | nil => exact .empty
  | append_singleton ds d ih =>
    obtain ⟨c, named, calls, hd⟩ := h d (by simp)
    rw [ofDefinitions_concat]
    exact .add (ih fun e he => h e (List.mem_append_left _ he)) hd

/-! ## Views -/

theorem find?_key_ofDefinitions (ds : List Definition) (key : String) :
    Entries.find? key (ofDefinitions ds) = (ds.filter (·.key == key)).getLast? := by
  rw [ofDefinitions_eq_ofList, Entries.find?_ofList, List.filter_map, List.getLast?_map,
    Option.map_map]
  exact Option.map_id'

theorem find?_ofDefinitions (ds : List Definition) (tag : String) :
    Entries.find? (Text.lower tag) (ofDefinitions ds) = (ds.filter (·.isFor tag)).getLast? :=
  find?_key_ofDefinitions ds (Text.lower tag)

/-- A tag finds the last of the definitions for it; the empty tag finds none. -/
theorem lookup?_ofDefinitions (ds : List Definition) (tag : String) :
    (ofDefinitions ds).lookup? tag =
      if tag.isEmpty then none else (ds.filter (·.isFor tag)).getLast? := by
  rw [lookup?, find?_ofDefinitions]

/-- The names are the tags, each in the place where it first came. -/
theorem tagNames_ofDefinitions (ds : List Definition) :
    (ofDefinitions ds).tagNames = (ds.map Definition.key).eraseDups := by
  rw [tagNames, ofDefinitions_eq_ofList, Entries.names_ofList, List.map_map]
  rfl

theorem nodup_tagNames_ofDefinitions (ds : List Definition) :
    (ofDefinitions ds).tagNames.Nodup := by
  rw [tagNames, ofDefinitions_eq_ofList]
  exact Entries.nodup_names_ofList _

/-- There are as many entries as there are tags. -/
theorem length_ofDefinitions (ds : List Definition) :
    (ofDefinitions ds).length = (ds.map Definition.key).toFinset.card := by
  have hlength : (ofDefinitions ds).length = (ofDefinitions ds).tagNames.length :=
    (List.length_map _).symm
  have htags : (ds.map Definition.key).toFinset = (ofDefinitions ds).tagNames.toFinset := by
    ext tag
    rw [List.mem_toFinset, List.mem_toFinset, tagNames_ofDefinitions, List.mem_eraseDups]
  rw [hlength, htags, List.toFinset_card_of_nodup (nodup_tagNames_ofDefinitions ds)]

/-- An addition replaces a definition, or else makes the registry longer by one. -/
theorem length_add (d : Definition) (r : Registry) :
    (r.add d).2.toList.length + (r.add d).1.length = r.length + 1 := by
  have hlength (s : Registry) : s.length = (Entries.names s).length := (List.length_map _).symm
  simp only [add]
  rw [hlength (Entries.put _ _ _), Entries.names_put, hlength r]
  by_cases h : Text.lower d.tag ∈ Entries.names r
  · obtain ⟨old, hold⟩ := Option.isSome_iff_exists.mp (Entries.isSome_find?_iff.mpr h)
    rw [if_pos h, hold]
    exact Nat.add_comm 1 _
  · rw [if_neg h, Entries.find?_eq_none_iff.mpr h, List.length_append]
    exact Nat.zero_add _

/-! ## Additions that no look-up shows -/

/-- Definitions for other tags can be left out. -/
theorem lookup?_ofDefinitions_filter {keep : Definition → Bool}
    (h : ∀ d ∈ ds, keep d = false → d.isFor tag = false) :
    (ofDefinitions (ds.filter keep)).lookup? tag = (ofDefinitions ds).lookup? tag := by
  have hfilter : (ds.filter keep).filter (·.isFor tag) = ds.filter (·.isFor tag) := by
    rw [List.filter_filter]
    refine List.filter_congr fun d hd => ?_
    cases hk : keep d with
    | true => exact Bool.and_true _
    | false => rw [h d hd hk, Bool.false_and]
  rw [lookup?_ofDefinitions, lookup?_ofDefinitions, hfilter]

/-- Of definitions with distinct tags at most one is for a tag, so that their order plays no part,
whatever has been added before them and is added after them. -/
theorem lookup?_ofDefinitions_perm (before after : List Definition) (hperm : ds.Perm es)
    (hlower : ∀ d ∈ ds, Text.lower d.tag = d.tag) (hdistinct : (ds.map (·.tag)).Nodup) :
    (ofDefinitions (before ++ ds ++ after)).lookup? tag =
      (ofDefinitions (before ++ es ++ after)).lookup? tag := by
  have hpair : (ds.filter (·.isFor tag)).Pairwise fun d e => d.tag ≠ e.tag :=
    (List.pairwise_map.mp hdistinct).filter _
  have htag (d : Definition) (hd : d ∈ ds.filter (·.isFor tag)) : d.tag = Text.lower tag := by
    rw [List.mem_filter, Definition.isFor, beq_iff_eq] at hd
    rw [← hlower d hd.1, hd.2]
  have hsame : ds.filter (·.isFor tag) = es.filter (·.isFor tag) := by
    have hp := hperm.filter (·.isFor tag)
    rcases hds : ds.filter (·.isFor tag) with _ | ⟨d, _ | ⟨e, rest⟩⟩ <;>
      rw [hds] at hp hpair htag ⊢
    · exact (List.nil_perm.mp hp).symm
    · exact List.singleton_perm.mp hp
    · have hne := List.rel_of_pairwise_cons hpair (List.mem_cons_self (a := e))
      exact absurd ((htag d (by simp)).trans (htag e (by simp)).symm) hne
  simp only [lookup?_ofDefinitions, List.filter_append, hsame]

end Registry

end TypedMarkup
