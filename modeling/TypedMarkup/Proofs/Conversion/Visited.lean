import TypedMarkup.Proofs.Conversion.Agreement
import TypedMarkup.Proofs.Registry.Additions

/-!
# What a conversion reads of its registry

Two converters that have the same definition for each element that both visit
(`SameDefinitions`) visit the same elements and make the same conversions (`SameDefinitions.node_eq`).
Such registries come from different additions: `node_of_visited` says that definitions for tags that
are not visited play no part, and neither does the order of definitions with distinct tags.
-/

namespace TypedMarkup.Converter

variable {cv cv' : Converter} {name : String} {n : Markup.Node}

/-! ## The same definition for a name -/

section Name

variable (h : cv.registry.lookup? (Text.lower name) = cv'.registry.lookup? (Text.lower name))
include h

theorem makesVoid_congr : cv.makesVoid name = cv'.makesVoid name := by
  rw [makesVoid, makesVoid, h]

theorem agreeOn_of_lookup? : AgreeOn id cv cv' name := by
  have hclass : cv.class? name = cv'.class? name := by rw [class?, class?, h]
  have htype : cv.typeOf name = cv'.typeOf name := by rw [typeOf, typeOf, hclass]
  refine ⟨htype, by rw [htype], ?_⟩
  rw [presetsOf, presetsOf, hclass]

end Name

/-! ## The same definitions for all that is visited -/

/-- The converters have the same definition for the name of each element that both visit. -/
def SameDefinitions (cv cv' : Converter) (n : Markup.Node) : Prop :=
  ∀ name, cv.Visits n name → cv'.Visits n name →
    cv.registry.lookup? (Text.lower name) = cv'.registry.lookup? (Text.lower name)

/-- What one of the converters visits the other visits too. -/
theorem SameDefinitions.visits (h : SameDefinitions cv cv' n) (hv : cv.Visits n name) :
    cv'.Visits n name :=
  hv.of_agree fun m hm hm' => makesVoid_congr (h m hm hm')

theorem SameDefinitions.node_eq (h : SameDefinitions cv cv' n) (hr : cv.registry.OfClasses)
    (hr' : cv'.registry.OfClasses) (hreport : cv.reportUnknown = cv'.reportUnknown)
    (parent : Option String) : cv.node parent n = cv'.node parent n := by
  have hid : Option.map (Tree.retype id) = id := by
    rw [show Tree.retype id = id from funext Tree.retype_id]
    exact Option.map_id
  have hnode := retype_node hr hr' hreport parent n fun m hm =>
    agreeOn_of_lookup? (h m hm (h.visits hm))
  rwa [hid, id_map, id_map] at hnode

/-! ## Main statement -/

/-- The converter that knows these definitions, which have been added in turn. -/
def knowing (report : Bool) (ds : List Definition) : Converter :=
  ⟨Registry.ofDefinitions ds, report⟩

/-- A conversion is determined by the definitions for the elements that it visits, with its failures
and with what it reports. So definitions for other tags can be left out, and definitions with
distinct tags can be added in any order, whatever has been added before and is added after. -/
theorem node_of_visited (report : Bool) (parent : Option String) (n : Markup.Node)
    (session : Session) :
    (∀ r r' : Registry, r.OfClasses → r'.OfClasses →
      SameDefinitions ⟨r, report⟩ ⟨r', report⟩ n →
        (node ⟨r, report⟩ parent n).exec session = (node ⟨r', report⟩ parent n).exec session) ∧
    (∀ (ds : List Definition) (keep : Definition → Bool), (∀ d ∈ ds, d.OfClass) →
      (∀ d ∈ ds, keep d = false → ∀ name, (knowing report ds).Visits n name →
        (knowing report (ds.filter keep)).Visits n name → d.isFor name = false) →
        ((knowing report ds).node parent n).exec session =
          ((knowing report (ds.filter keep)).node parent n).exec session) ∧
    ∀ before ds es after : List Definition, (∀ d ∈ before ++ ds ++ after, d.OfClass) →
      ds.Perm es → (ds.map (·.tag)).Nodup →
        ((knowing report (before ++ ds ++ after)).node parent n).exec session =
          ((knowing report (before ++ es ++ after)).node parent n).exec session := by
  refine ⟨fun r r' hr hr' h => ?_, fun ds keep hds hdrop => ?_,
    fun before ds es after hds hperm hdistinct => ?_⟩
  · rw [h.node_eq hr hr' rfl]
  · have hsame : SameDefinitions (knowing report ds) (knowing report (ds.filter keep)) n :=
      fun name hv hv' => (Registry.lookup?_ofDefinitions_filter fun d hd hk => by
        rw [Definition.isFor_lower]
        exact hdrop d hd hk name hv hv').symm
    rw [hsame.node_eq (Registry.ofClasses_ofDefinitions hds)
      (Registry.ofClasses_ofDefinitions fun d hd => hds d (List.mem_of_mem_filter hd)) rfl]
  · have hes : ∀ d ∈ before ++ es ++ after, d.OfClass := by
      intro d hd
      refine hds d ?_
      simpa only [List.mem_append, hperm.mem_iff] using hd
    have hlower : ∀ d ∈ ds, Text.lower d.tag = d.tag := by
      intro d hd
      exact (hds d (List.mem_append_left _ (List.mem_append_right _ hd))).lower_tag
    have hsame : SameDefinitions (knowing report (before ++ ds ++ after))
        (knowing report (before ++ es ++ after)) n :=
      fun name _ _ => Registry.lookup?_ofDefinitions_perm before after hperm hlower hdistinct
    rw [hsame.node_eq (Registry.ofClasses_ofDefinitions hds)
      (Registry.ofClasses_ofDefinitions hes) rfl]

/-- Definitions of two classes of containers. -/
def sheetDefinition : Definition :=
  ⟨.ofClass sheet, sheet, Text.lower sheet.tag, sheet.form == .void⟩
where
  sheet : SemanticClass := ⟨"Sheet", [], .container, "x-sheet", .block, []⟩

def spareDefinition : Definition :=
  ⟨.ofClass spare, spare, Text.lower spare.tag, spare.form == .void⟩
where
  spare : SemanticClass := ⟨"Spare", [], .container, "x-spare", .block, []⟩

/-- A sheet with a spare in it that is not visited, for it stands in a void element. -/
def sheetPage : Markup.Node :=
  .element "X-Sheet" [] [.element "HR" [] [.element "x-spare" [] []]]

theorem eq_of_visits_sheetPage {ds : List Definition}
    (hvoid : (knowing true ds).makesVoid "HR" = true)
    (h : (knowing true ds).Visits sheetPage name) : name = "X-Sheet" ∨ name = "HR" := by
  rcases visits_element_iff.mp h with hname | ⟨-, c, hc, hm⟩
  · exact .inl hname
  · rw [List.mem_singleton.mp hc] at hm
    rcases visits_element_iff.mp hm with hname | ⟨hopen, -⟩
    · exact .inr hname
    · rw [hvoid] at hopen
      exact absurd hopen (by decide)

theorem node_of_visited_sheetPage :
    (node ⟨.ofDefinitions [sheetDefinition, spareDefinition], true⟩ none sheetPage).exec .initial =
        (node ⟨.ofDefinitions [sheetDefinition], true⟩ none sheetPage).exec .initial ∧
      ((knowing true [sheetDefinition, spareDefinition]).node none sheetPage).exec .initial =
        ((knowing true [sheetDefinition]).node none sheetPage).exec .initial ∧
      ((knowing true [sheetDefinition, spareDefinition]).node none sheetPage).exec .initial =
        ((knowing true [spareDefinition, sheetDefinition]).node none sheetPage).exec .initial := by
  have hsheet : sheetDefinition.OfClass := Definition.ofClass_of_declared rfl (by decide)
  have hspare : spareDefinition.OfClass := Definition.ofClass_of_declared rfl (by decide)
  have hboth : ∀ d ∈ [sheetDefinition, spareDefinition], d.OfClass :=
    List.forall_mem_cons.mpr ⟨hsheet, List.forall_mem_singleton.mpr hspare⟩
  have hvoid : (knowing true [sheetDefinition, spareDefinition]).makesVoid "HR" = true := by
    decide +kernel
  have hother (name : String)
      (h : (knowing true [sheetDefinition, spareDefinition]).Visits sheetPage name) :
      spareDefinition.isFor name = false := by
    rcases eq_of_visits_sheetPage hvoid h with rfl | rfl <;> decide +kernel
  have hsame : SameDefinitions ⟨.ofDefinitions [sheetDefinition, spareDefinition], true⟩
      ⟨.ofDefinitions [sheetDefinition], true⟩ sheetPage := by
    intro name h _
    simp only [Registry.lookup?_ofDefinitions, List.filter_cons, List.filter_nil,
      Definition.isFor_lower, hother name h, Bool.false_eq_true, if_false]
  obtain ⟨hread, hleave, horder⟩ := node_of_visited true none sheetPage .initial
  refine ⟨?_, ?_, ?_⟩
  · exact hread _ _ (Registry.ofClasses_ofDefinitions hboth)
      (Registry.ofClasses_ofDefinitions (List.forall_mem_singleton.mpr hsheet)) hsame
  · refine hleave [sheetDefinition, spareDefinition] (·.elementClass.name == "Sheet") hboth ?_
    intro d hd hk name h _
    rcases List.mem_pair.mp hd with rfl | rfl
    · exact absurd hk (by decide)
    · exact hother name h
  · exact horder [] [sheetDefinition, spareDefinition] [spareDefinition, sheetDefinition] []
      hboth (List.Perm.swap _ _ []) (by decide +kernel)

end TypedMarkup.Converter
