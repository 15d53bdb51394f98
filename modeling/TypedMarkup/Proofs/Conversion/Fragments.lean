import TypedMarkup.Proofs.Conversion.Correspondence
import TypedMarkup.Proofs.Conversion.Failures
import TypedMarkup.Proofs.Conversion.Instances

/-!
# Fragments

A fragment is converted element by element (`convertFragment_of_read`), but in one conversion: when
it fails on one of the elements it gives nothing of the others. `Converter.Kept` says what is to be
kept of them, the conversions of those that can be converted on their own, and
`convertFragment_keeps_iff` that this is the result just when there are no others.
-/

namespace TypedMarkup

namespace Markup.Node

/-- The elements among the children of a node, in order. -/
def childElements (n : Node) : List Node :=
  n.children.filter isElement

theorem isElement_of_mem_childElements {n m : Node} (h : m ∈ n.childElements) :
    m.isElement = true :=
  (List.mem_filter.mp h).2

theorem isPlain_of_mem_childElements {n m : Node} (hn : n.isPlain = true)
    (h : m ∈ n.childElements) : m.isPlain = true :=
  isPlain_of_mem_children hn (List.mem_filter.mp h).1

end Markup.Node

namespace PageConverter

/-- A fragment that has been read is converted element by element, and what is left out in the
elements is reported behind what there was to say of its reading. -/
theorem convertFragment_of_read {pc : PageConverter} {content : Markup.Content}
    {body : Markup.Node} (hread : (pc.source.readFragment content).result = .ok body)
    (calls : Calls) (elapsed : Int) :
    pc.convertFragment content calls elapsed =
      let reading := pc.source.readFragment content
      let run := (pc.converter.elements body.childElements).exec ⟨calls, []⟩
      ⟨run.1, run.2.calls, reading.attempts,
        reading.notices ++ run.2.unknown.map .unknownNode ++ [took "convert_fragment" elapsed]⟩ := by
  unfold convertFragment convertRead
  simp only [hread]
  rfl

end PageConverter

namespace Converter

variable {cv : Converter}

/-! ## What is to be kept -/

/-- The trees are the conversions of those among the elements that can be converted on their own,
in order. -/
inductive Kept (cv : Converter) : List Markup.Node → List Tree → Prop where
  | nil : Kept cv [] []
  | converted {n : Markup.Node} {t : Tree} {ns : List Markup.Node} {ts : List Tree} :
      cv.ConvertsTo n t → Kept cv ns ts → Kept cv (n :: ns) (t :: ts)
  | failed {n : Markup.Node} {ns : List Markup.Node} {ts : List Tree} :
      (¬ ∃ t, cv.ConvertsTo n t) → Kept cv ns ts → Kept cv (n :: ns) ts

/-- An element can be converted on its own unless its conversion comes to an attribute without a
text; then it becomes its output. -/
theorem convertsTo_iff (hr : cv.registry.OfClasses) {n : Markup.Node} (he : n.isElement = true)
    {t : Tree} : cv.ConvertsTo n t ↔ ¬ cv.FailsOn n ∧ cv.output none n = some t := by
  have hgives := element_gives hr he
  rw [← stumbles_iff hr, Bool.not_eq_true]
  constructor
  · intro h
    have hresult := hgives.unique h
    cases hs : cv.stumbles n with
    | true => rw [hs] at hresult; exact absurd hresult (by simp)
    | false =>
      rw [hs, if_neg Bool.false_ne_true] at hresult
      exact ⟨rfl, Except.ok.inj hresult⟩
  · rintro ⟨hs, hout⟩
    rwa [hs, if_neg Bool.false_ne_true, hout] at hgives

theorem exists_output {n : Markup.Node} (he : n.isElement = true) (parent : Option String) :
    ∃ t, cv.output parent n = some t := by
  obtain ⟨name, attributes, cs, rfl⟩ := Markup.Node.exists_of_isElement he
  exact ⟨_, by rw [output]⟩

theorem exists_convertsTo_iff_not_failsOn (hr : cv.registry.OfClasses) {n : Markup.Node}
    (he : n.isElement = true) : (∃ t, cv.ConvertsTo n t) ↔ ¬ cv.FailsOn n := by
  obtain ⟨t, ht⟩ := cv.exists_output he none
  refine ⟨fun ⟨u, hu⟩ => ((convertsTo_iff hr he).mp hu).1, fun h => ⟨t, ?_⟩⟩
  exact (convertsTo_iff hr he).mpr ⟨h, ht⟩

/-- The outputs of elements that can all be converted are what is to be kept. -/
theorem kept_of_forall (hr : cv.registry.OfClasses) {ns : List Markup.Node}
    (hns : ∀ n ∈ ns, n.isElement = true ∧ ¬ cv.FailsOn n) :
    cv.Kept ns (ns.filterMap (cv.output none)) := by
  induction ns with
  | nil => exact .nil
  | cons n ns ih =>
    obtain ⟨⟨he, hn⟩, hns⟩ := List.forall_mem_cons.mp hns
    obtain ⟨t, ht⟩ := cv.exists_output he none
    rw [List.filterMap_cons_some ht]
    exact .converted ((convertsTo_iff hr he).mpr ⟨hn, ht⟩) (ih hns)

end Converter

namespace PageConverter

/-! ## Main statement -/

/-- With a registry of element classes, the conversion of a fragment gives the conversions of those
of its elements that can be converted on their own just when this is all of them: when no conversion
comes to an attribute that has no text. Otherwise the whole fragment fails, whatever else is in
it. -/
theorem convertFragment_keeps_iff {pc : PageConverter} {content : Markup.Content}
    {body : Markup.Node} (hr : pc.converter.registry.OfClasses)
    (hread : (pc.source.readFragment content).result = .ok body) (calls : Calls)
    (elapsed : Int) :
    let result := (pc.convertFragment content calls elapsed).result
    (∀ n ∈ body.childElements,
      (∃ t, pc.converter.ConvertsTo n t) ↔ ¬ pc.converter.FailsOn n) ∧
    ((∃ trees, result = .ok trees ∧ pc.converter.Kept body.childElements trees) ↔
      ∀ n ∈ body.childElements, ¬ pc.converter.FailsOn n) ∧
    ((∃ n ∈ body.childElements, pc.converter.FailsOn n) → result = .error .notText) := by
  intro result
  have helement {n : Markup.Node} (hn : n ∈ body.childElements) : n.isElement = true :=
    Markup.Node.isElement_of_mem_childElements hn
  have hresult : result = if body.childElements.any pc.converter.stumbles = true
      then .error .notText
      else .ok (body.childElements.filterMap (pc.converter.output none)) := by
    have hrun := Converter.elements_gives hr (fun n hn => helement hn) ⟨calls, []⟩
    rw [← hrun]
    exact congrArg Report.result (convertFragment_of_read hread calls elapsed)
  have hany : body.childElements.any pc.converter.stumbles = true ↔
      ∃ n ∈ body.childElements, pc.converter.FailsOn n := by
    simp only [List.any_eq_true, Converter.stumbles_iff hr]
  refine ⟨fun n hn => Converter.exists_convertsTo_iff_not_failsOn hr (helement hn),
    ⟨fun h n hn hfails => ?_, fun h => ?_⟩, fun h => ?_⟩
  · obtain ⟨trees, htrees, -⟩ := h
    rw [hresult, if_pos (hany.mpr ⟨n, hn, hfails⟩)] at htrees
    exact absurd htrees (by simp)
  · have hnone : ¬ body.childElements.any pc.converter.stumbles = true := fun hs => by
      obtain ⟨n, hn, hfails⟩ := hany.mp hs
      exact h n hn hfails
    rw [hresult, if_neg hnone]
    exact ⟨_, rfl, Converter.kept_of_forall hr fun n hn => ⟨helement hn, h n hn⟩⟩
  · rw [hresult, if_pos (hany.mpr h)]

/-- A body with an element between two others whose class is a list with a number in it. -/
def notes : Markup.Node :=
  .element "body" [] [.element "p" [] [.string .plain "first"],
    .element "x-badge" [("class", .list [.text "new", .int 1])] [],
    .element "p" [] [.string .plain "last"]]

/-- A converter of pages whose parser always reads these notes. -/
def notesConverter : PageConverter where
  source := ⟨.null, .null, fun _ _ => .ok [notes]⟩
  converter := Converter.badgeConverter

/-- The first of the notes can be converted and is lost with all the others. -/
theorem convertFragment_keeps_iff_notes :
    notesConverter.converter.registry.OfClasses ∧
      (notesConverter.source.readFragment (.text "")).result = .ok notes ∧
      (notesConverter.convertFragment (.text "") [] 0).result = .error .notText ∧
      (∃ t, notesConverter.converter.ConvertsTo (.element "p" [] [.string .plain "first"]) t) ∧
      ¬ ∃ trees, (notesConverter.convertFragment (.text "") [] 0).result = .ok trees ∧
        notesConverter.converter.Kept notes.childElements trees := by
  have hr : notesConverter.converter.registry.OfClasses := Converter.ofClasses_badgeConverter
  have hread : (notesConverter.source.readFragment (.text "")).result = .ok notes := rfl
  obtain ⟨hown, hkeeps, hfails⟩ := convertFragment_keeps_iff hr hread [] 0
  have hbadge : ∃ n ∈ notes.childElements, notesConverter.converter.FailsOn n :=
    ⟨_, List.mem_cons_of_mem _ List.mem_cons_self, [], _, Converter.reaches_nil.mpr rfl, rfl⟩
  refine ⟨hr, hread, hfails hbadge, ?_, fun h => ?_⟩
  · refine (hown _ List.mem_cons_self).mpr fun h => ?_
    rw [← Converter.stumbles_iff hr] at h
    simp [Converter.stumbles, Converter.anyStumbles, Markup.Node.lacksText] at h
  · obtain ⟨n, hn, hn'⟩ := hbadge
    exact hkeeps.mp h n hn hn'

end PageConverter

end TypedMarkup
