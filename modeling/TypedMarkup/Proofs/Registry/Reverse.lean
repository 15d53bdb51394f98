import TypedMarkup.Proofs.Registry.History

/-!
# The search in reverse

From a class to the tag of a definition that holds it. The search looks at the definitions in the
order of the registry, which after any history are the last ones for each tag (`latest`). It is the
inverse of a look-up by tag: each stored definition is found again under its own tag, unless that is
empty (`lookup?_of_mem_latest`), since the key under which it stands is this tag in small letters.

A definition that does not hold the class takes the one that it replaces out of the search
(`find?_latest_concat`). `tagForClass_of_history` says all this of any history.
-/

namespace TypedMarkup

/-- Whether the definition holds a class, so that the search for the class finds it. -/
def Definition.holds (c : SemanticClass) (d : Definition) : Bool :=
  d.elementClass.name == c.name

namespace Registry

variable {c : SemanticClass} {ds : List Definition} {d : Definition}

/-! ## The stored definitions -/

/-- Of definitions that are added in turn those that are stored in the end, in the order of the
registry: the last one for each tag, in the place where the tag first came. -/
def latest (ds : List Definition) : List Definition :=
  (ds.map Definition.key).eraseDups.filterMap fun key => (ds.filter (·.key == key)).getLast?

theorem definitions_ofDefinitions (ds : List Definition) :
    (ofDefinitions ds).definitions = latest ds := by
  have hentries := Entries.filterMap_names (nodup_tagNames_ofDefinitions ds)
  have hread (key : String) : ((Entries.find? key (ofDefinitions ds)).map fun d => (key, d)).map
      Prod.snd = (ds.filter (·.key == key)).getLast? := by
    rw [Option.map_map, ← find?_key_ofDefinitions]
    exact Option.map_id'
  rw [definitions, ← hentries, List.map_filterMap, ← tagNames, tagNames_ofDefinitions]
  exact List.filterMap_congr fun key _ => hread key

/-- Each definition stands under its key. -/
theorem key_of_mem_ofDefinitions {key : String} (h : (key, d) ∈ ofDefinitions ds) :
    key = d.key ∧ d ∈ ds := by
  rw [ofDefinitions_eq_ofList] at h
  obtain ⟨e, he, heq⟩ := List.mem_map.mp (Entries.mem_of_mem_ofList h)
  obtain ⟨hkey, rfl⟩ := Prod.mk.inj heq
  exact ⟨hkey.symm, he⟩

/-- Stored definitions that have a tag are found again under it. -/
theorem lookup?_of_mem_latest (h : d ∈ latest ds) :
    (ofDefinitions ds).lookup? d.tag = if d.tag.isEmpty then none else some d := by
  rw [← definitions_ofDefinitions, definitions, List.mem_map] at h
  obtain ⟨⟨key, e⟩, hentry, rfl⟩ := h
  obtain ⟨rfl, -⟩ := key_of_mem_ofDefinitions hentry
  have hfind : Entries.find? (Text.lower e.tag) (ofDefinitions ds) = some e :=
    Entries.find?_of_mem (nodup_tagNames_ofDefinitions ds) hentry
  rw [lookup?, hfind]

/-! ## The search -/

/-- The definition is the first of several that holds a class. -/
def IsFirst (c : SemanticClass) (ds : List Definition) (d : Definition) : Prop :=
  ∃ before after, ds = before ++ d :: after ∧ d.holds c = true ∧ ∀ e ∈ before, e.holds c = false

theorem IsFirst.mem (h : IsFirst c ds d) : d ∈ ds := by
  obtain ⟨before, after, rfl, -⟩ := h
  exact List.mem_append_cons_self

theorem IsFirst.holds (h : IsFirst c ds d) : d.holds c = true := by
  obtain ⟨-, -, -, hd, -⟩ := h
  exact hd

theorem find?_holds_eq_some_iff : ds.find? (Definition.holds c) = some d ↔ IsFirst c ds d := by
  rw [List.find?_eq_some_iff_append]
  constructor
  · rintro ⟨hd, before, after, rfl, hbefore⟩
    exact ⟨before, after, rfl, hd, by simpa using hbefore⟩
  · rintro ⟨before, after, rfl, hd, hbefore⟩
    exact ⟨hd, before, after, rfl, by simpa using hbefore⟩

theorem find?_holds_eq_none_iff :
    ds.find? (Definition.holds c) = none ↔ ∀ d ∈ ds, d.holds c = false := by
  simp

/-- The search goes through the definitions in the order of the registry. -/
theorem tagForClass_ofDefinitions (c : SemanticClass) (ds : List Definition) :
    (ofDefinitions ds).tagForClass c =
      match (latest ds).find? (Definition.holds c) with
      | some d => .ok d.tag
      | none => .error (.unregistered c.name) := by
  have hfind : (ofDefinitions ds).definitions.find? (Definition.holds c) =
      (List.find? (fun entry => entry.2.elementClass.name == c.name) (ofDefinitions ds)).map
        Prod.snd :=
    List.find?_map
  rw [← definitions_ofDefinitions, hfind, tagForClass]
  cases List.find? (fun entry => entry.2.elementClass.name == c.name) (ofDefinitions ds) <;> rfl

theorem tagForClass_of_isFirst (h : IsFirst c (latest ds) d) :
    (ofDefinitions ds).tagForClass c = .ok d.tag := by
  rw [tagForClass_ofDefinitions, find?_holds_eq_some_iff.mpr h]

theorem tagForClass_of_none (h : ∀ d ∈ latest ds, d.holds c = false) :
    (ofDefinitions ds).tagForClass c = .error (.unregistered c.name) := by
  rw [tagForClass_ofDefinitions, find?_holds_eq_none_iff.mpr h]

theorem exists_isFirst_of_tagForClass {tag : String}
    (h : (ofDefinitions ds).tagForClass c = .ok tag) :
    ∃ d, IsFirst c (latest ds) d ∧ d.tag = tag := by
  rw [tagForClass_ofDefinitions] at h
  cases hfind : (latest ds).find? (Definition.holds c) with
  | none => simp [hfind] at h
  | some d => exact ⟨d, find?_holds_eq_some_iff.mp hfind, by simpa [hfind] using h⟩

/-- The search finds a tag just when a definition holds the class. -/
theorem exists_tagForClass_iff :
    (∃ tag, (ofDefinitions ds).tagForClass c = .ok tag) ↔ ∃ d ∈ latest ds, d.holds c = true := by
  constructor
  · rintro ⟨tag, h⟩
    obtain ⟨d, hfirst, -⟩ := exists_isFirst_of_tagForClass h
    exact ⟨d, hfirst.mem, hfirst.holds⟩
  · rintro ⟨d, hd, hholds⟩
    obtain ⟨e, he⟩ : ∃ e, (latest ds).find? (Definition.holds c) = some e := by
      rw [← Option.isSome_iff_exists, List.find?_isSome]
      exact ⟨d, hd, hholds⟩
    exact ⟨e.tag, tagForClass_of_isFirst (find?_holds_eq_some_iff.mp he)⟩

/-- The search after an addition that does not hold the class: it finds what it finds when the
definition for the same tag is left out. -/
theorem find?_latest_concat (hd : d.holds c = false) (ds : List Definition) :
    (latest (ds ++ [d])).find? (Definition.holds c) =
      ((latest ds).filter fun e => !e.isFor d.tag).find? (Definition.holds c) := by
  have hkeys : ∀ entry ∈ ofDefinitions ds, (entry.2.holds c && entry.1 != d.key) =
      (entry.2.holds c && !entry.2.isFor d.tag) := by
    rintro ⟨key, e⟩ hentry
    rw [(key_of_mem_ofDefinitions hentry).1]
    rfl
  have hput : (Entries.put d.key d (ofDefinitions ds)).filter (fun entry => entry.2.holds c) =
      (ofDefinitions ds).filter fun entry => entry.2.holds c && entry.1 != d.key :=
    Entries.filter_put (nodup_tagNames_ofDefinitions ds) hd
  rw [List.filter_congr hkeys] at hput
  rw [← definitions_ofDefinitions, ← definitions_ofDefinitions, ofDefinitions_concat,
    ← List.head?_filter, ← List.head?_filter, List.filter_filter]
  simp only [definitions, List.filter_map, List.head?_map]
  exact congrArg (Option.map Prod.snd ·.head?) hput

/-! ## Main statement -/

/-- After any calls on a new registry, failing ones included, what is stored are the last definitions
for each tag, in the order in which the tags first came. The search for a class finds a tag just
when one of them holds the class; it is then the tag of the first that does, and a look-up of this
tag gives this definition, unless the tag is empty and its look-up gives nothing. Else the class is
unregistered.

A call that adds a definition which does not hold the class leaves to the search what is stored for
other tags: if nothing of this holds the class, it is unregistered from then on, and else it is
found under the tag of the first that does. -/
theorem tagForClass_of_history (rs : List Registration) (calls : Calls) (c : SemanticClass) :
    let ledger := (run (.initial calls) rs).2
    let stored := latest (added (run (.initial calls) rs).1)
    ledger.registry.definitions = stored ∧
      ((∃ tag, ledger.registry.tagForClass c = .ok tag) ↔ ∃ d ∈ stored, d.holds c = true) ∧
      (∀ tag, ledger.registry.tagForClass c = .ok tag →
        ∃ d, IsFirst c stored d ∧ d.tag = tag ∧
          ledger.registry.lookup? tag = if tag.isEmpty then none else some d) ∧
      ((∀ d ∈ stored, d.holds c = false) →
        ledger.registry.tagForClass c = .error (.unregistered c.name)) ∧
      ∀ (r : Registration) (d : Definition), (r.perform ledger).1 = .ok d → d.holds c = false →
        let next := (r.perform ledger).2.registry
        let left := stored.filter fun e => !e.isFor d.tag
        ((∀ e ∈ left, e.holds c = false) →
          next.tagForClass c = .error (.unregistered c.name)) ∧
        ∀ e, IsFirst c left e → next.tagForClass c = .ok e.tag := by
  intro ledger stored
  have hregistry : ledger.registry = ofDefinitions (added (run (.initial calls) rs).1) :=
    ((holds_initial calls).run rs).registry
  rw [hregistry]
  refine ⟨definitions_ofDefinitions _, exists_tagForClass_iff, fun tag htag => ?_,
    tagForClass_of_none, fun r d hr hd => ?_⟩
  · obtain ⟨d, hfirst, rfl⟩ := exists_isFirst_of_tagForClass htag
    exact ⟨d, hfirst, rfl, lookup?_of_mem_latest hfirst.mem⟩
  · -- a call that answers a definition has added it
    have hnext : (r.perform ledger).2.registry =
        ofDefinitions (added (run (.initial calls) rs).1 ++ [d]) := by
      rcases perform_cases r ledger with ⟨e, he, hadd, -⟩ | ⟨fault, hf, -⟩
      · rw [hadd, hregistry, Except.ok.inj (he.symm.trans hr), ofDefinitions_concat]
      · rw [hr] at hf
        exact absurd hf (by simp)
    have hsearch := tagForClass_ofDefinitions c (added (run (.initial calls) rs).1 ++ [d])
    rw [← hnext, find?_latest_concat hd] at hsearch
    refine ⟨fun hnone => ?_, fun e he => ?_⟩
    · rw [hsearch, find?_holds_eq_none_iff.mpr hnone]
    · rw [hsearch, find?_holds_eq_some_iff.mpr he]

/-- A class of containers with a tag of its own. -/
def note : SemanticClass :=
  ⟨"Note", [], .container, "x-note", .inline, []⟩

/-- Two definitions hold the class of cards, under two tags. -/
def sharedHistory : List Registration :=
  [.register (.ofClass card) none, .register (.ofClass note) (some card)]

/-- What this history stores. -/
def sharedDefinitions : List Definition :=
  [⟨.ofClass card, card, "x-card", false⟩, ⟨.ofClass note, card, "x-note", false⟩]

theorem lower_shared :
    Text.lower "X-Card" = "x-card" ∧ Text.lower "x-card" = "x-card" ∧
      Text.lower "x-CARD" = "x-card" ∧ Text.lower "x-note" = "x-note" := by
  decide +kernel

theorem added_sharedHistory : added (run (.initial []) sharedHistory).1 = sharedDefinitions := by
  show [Definition.mk _ _ (Text.lower "X-Card") _, Definition.mk _ _ (Text.lower "x-note") _] = _
  rw [lower_shared.1, lower_shared.2.2.2]
  rfl

theorem latest_sharedDefinitions : latest sharedDefinitions = sharedDefinitions := by
  have hkeys : sharedDefinitions.map Definition.key = ["x-card", "x-note"] := by
    simp only [sharedDefinitions, List.map_cons, List.map_nil, Definition.key, lower_shared]
  have hnames : ["x-card", "x-note"].eraseDups = ["x-card", "x-note"] := by decide
  rw [latest, hkeys, hnames]
  simp [sharedDefinitions, Definition.key, lower_shared]

/-- When the first of them is replaced, the class is found under the tag of the other. -/
theorem tagForClass_of_history_shared :
    (∃ tag, (run (.initial []) sharedHistory).2.registry.tagForClass card = .ok tag) ∧
      ((Registration.register (.ofClass tile) none).perform
        (run (.initial []) sharedHistory).2).2.registry.tagForClass card = .ok "x-note" ∧
      (run (.initial []) sharedHistory).2.registry.tagForClass note =
        .error (.unregistered "Note") := by
  obtain ⟨-, hfound, -, -, hreplaced⟩ := tagForClass_of_history sharedHistory [] card
  obtain ⟨-, -, -, hmissing, -⟩ := tagForClass_of_history sharedHistory [] note
  rw [added_sharedHistory, latest_sharedDefinitions] at hfound hreplaced hmissing
  refine ⟨hfound.mpr ⟨_, List.mem_cons_self, rfl⟩, ?_, hmissing ?_⟩
  · refine (hreplaced (.register (.ofClass tile) none) _ rfl (by decide)).2
      ⟨.ofClass note, card, "x-note", false⟩ ⟨[], [], ?_, rfl, fun _ h => absurd h List.not_mem_nil⟩
    simp [sharedDefinitions, Definition.isFor, tile, lower_shared]
  · simp [sharedDefinitions, Definition.holds, card, note]

/-- The class of cards is found under the empty tag, whose look-up finds nothing. When a second
registration of the class replaces the first, it stays registered. -/
theorem tagForClass_nameless :
    (run (.initial []) (namelessHistory.take 1)).2.registry.tagForClass card = .ok "" ∧
      (run (.initial []) (namelessHistory.take 1)).2.registry.lookup? "" = none ∧
      (run (.initial []) [.register (.ofClass card) none]).2.registry.tagForClass card =
        .ok "x-card" ∧
      (run (.initial []) [.register (.ofClass card) none,
        .register (.ofClass card) none]).2.registry.tagForClass card = .ok "x-card" := by
  decide +kernel

end Registry

end TypedMarkup
