import TypedMarkup.Proofs.Conversion.Fragments
import TypedMarkup.Proofs.Conversion.Places

/-!
# Bodies

The elements in the body of a document are converted in three ways: with the body, among whatever
else is in it (`convertDocument`), as the top of a fragment (`convertFragment`), and as elements
that a caller picks (`Converter.elements`). `filter_outputs` says that what the first gives, less
all that is no element, is what the last gives, and `forall₂_convertsTo_iff` that several elements
are converted together just when each is on its own. `convertFragment_eq_children` brings the three
together, and says what is left of this in a document without a body.
-/

namespace TypedMarkup

theorem Markup.Document.isElement_of_body? {document : Markup.Document} {body : Markup.Node}
    (h : document.body? = some body) : body.isElement = true := by
  have hmem : body ∈ document.findAll "body" := List.mem_of_head? h
  rw [findAll_eq, List.mem_map] at hmem
  obtain ⟨l, hl, rfl⟩ := hmem
  exact Node.isElement_of_hasName (List.mem_filter.mp hl).2

namespace Converter

variable {cv : Converter}

/-! ## Elements among other nodes -/

/-- The output of a node is an element just when the node is one. -/
theorem isElement_of_output {parent : Option String} {n : Markup.Node} {t : Tree}
    (h : cv.output parent n = some t) : t.isElement = n.isElement := by
  cases n with
  | element name attributes cs =>
    rw [output] at h
    rw [← Option.some.inj h]
    rfl
  | string sort data =>
    rw [output] at h
    exact isElement_of_stringOutput h
  | foreign | absent => exact absurd h (by simp [output])

/-- The elements among the outputs of nodes are the outputs of the elements among them. -/
theorem filter_outputs (cv : Converter) (parent : String) (ns : List Markup.Node) :
    (cv.outputs parent ns).filter Tree.isElement =
      (ns.filter Markup.Node.isElement).filterMap (cv.output none) := by
  induction ns with
  | nil => rfl
  | cons n ns ih =>
    rw [outputs, List.filter_append, ih]
    by_cases he : n.isElement = true
    · obtain ⟨t, ht⟩ := cv.exists_output he (some parent)
      have hfree : cv.output none n = some t := by rw [← output_of_isElement he, ht]
      have hkept : t.isElement = true := (isElement_of_output ht).trans he
      rw [List.filter_cons_of_pos he, List.filterMap_cons_some hfree, ht, Option.toList_some,
        List.filter_cons_of_pos hkept]
      rfl
    · -- a node that is no element has no output, or one that is dropped
      have hdropped : (cv.output (some parent) n).toList.filter Tree.isElement = [] := by
        refine List.filter_eq_nil_iff.mpr fun t ht => ?_
        rwa [isElement_of_output (Option.mem_toList.mp ht)]
      rw [List.filter_cons_of_neg he, hdropped, List.nil_append]

/-- Each of several elements can be converted on its own just when no conversion stumbles, and then
they become their outputs. -/
theorem forall₂_convertsTo_iff (hr : cv.registry.OfClasses) {ns : List Markup.Node}
    (hns : ∀ n ∈ ns, n.isElement = true) {trees : List Tree} :
    List.Forall₂ cv.ConvertsTo ns trees ↔
      ns.any cv.stumbles = false ∧ ns.filterMap (cv.output none) = trees := by
  induction ns generalizing trees with
  | nil => simp [eq_comm]
  | cons n ns ih =>
    obtain ⟨he, hns⟩ := List.forall_mem_cons.mp hns
    obtain ⟨t, ht⟩ := cv.exists_output he none
    have hconverts {u : Tree} : cv.ConvertsTo n u ↔ cv.stumbles n = false ∧ t = u := by
      rw [convertsTo_iff hr he, ← stumbles_iff hr, Bool.not_eq_true, ht, Option.some.injEq]
    rw [List.forall₂_cons_left_iff, List.any_cons, List.filterMap_cons_some ht,
      Bool.or_eq_false_iff]
    constructor
    · rintro ⟨u, us, hu, hus, rfl⟩
      obtain ⟨hn, rfl⟩ := hconverts.mp hu
      obtain ⟨hrest, rfl⟩ := (ih hns).mp hus
      exact ⟨⟨hn, hrest⟩, rfl⟩
    · rintro ⟨⟨hn, hrest⟩, rfl⟩
      exact ⟨t, _, hconverts.mpr ⟨hn, rfl⟩, (ih hns).mpr ⟨hrest, rfl⟩, rfl⟩

/-- Several elements are converted together into what each is converted to on its own. -/
theorem elements_eq_ok_iff (hr : cv.registry.OfClasses) {ns : List Markup.Node}
    (hns : ∀ n ∈ ns, n.isElement = true) (session : Session) {trees : List Tree} :
    ((cv.elements ns).exec session).1 = .ok trees ↔ List.Forall₂ cv.ConvertsTo ns trees := by
  rw [elements_gives hr hns session, forall₂_convertsTo_iff hr hns]
  cases ns.any cv.stumbles <;> simp

/-- The elements that an element is converted to hold those that the elements in it are converted
to, unless it becomes void. -/
theorem ConvertsTo.childElements (hr : cv.registry.OfClasses) {n : Markup.Node}
    (he : n.isElement = true) {type : ElementType} {tag : String}
    {attributes : List (String × String)} {below : List Tree}
    (h : cv.ConvertsTo n (.element type tag attributes below)) (howns : type.ownsChildren = true) :
    List.Forall₂ cv.ConvertsTo n.childElements (below.filter Tree.isElement) := by
  obtain ⟨name, given, cs, rfl⟩ := Markup.Node.exists_of_isElement he
  obtain ⟨hfails, hout⟩ := (convertsTo_iff hr he).mp h
  rw [output, Option.some.injEq, Tree.element.injEq] at hout
  obtain ⟨rfl, -, -, hbelow⟩ := hout
  rw [if_pos howns] at hbelow
  refine (forall₂_convertsTo_iff hr fun _ => Markup.Node.isElement_of_mem_childElements).mpr
    ⟨?_, ?_⟩
  · rw [← stumbles_iff hr, stumbles, howns, Bool.true_and, anyStumbles_eq_any] at hfails
    simp only [Bool.or_eq_true, not_or, Bool.not_eq_true] at hfails
    exact List.any_eq_false.mpr fun c hc =>
      List.any_eq_false.mp hfails.2 c (List.mem_filter.mp hc).1
  · rw [← hbelow, filter_outputs]
    rfl

end Converter

namespace PageConverter

open Converter

/-! ## What is read -/

theorem convertDocument_result {pc : PageConverter} {page : Page} {document : Markup.Document}
    (hread : (pc.read page).result = .ok document) (calls : Calls) (elapsed : Int) :
    (pc.convertDocument page calls elapsed).result =
      match document.body? with
      | some body => ((pc.converter.element body).exec ⟨calls, []⟩).1
      | none => .ok none := by
  unfold convertDocument convertRead
  simp only [hread, Report.note]
  cases document.body? <;> rfl

/-- What is read as a fragment is the body of what is parsed, or all of it. -/
theorem readFragment_result {source : Markup.Source} {content : Markup.Content}
    {document : Markup.Document}
    (hparse : (source.parse ("<body>" ++ content.decode)).result = .ok document) :
    (source.readFragment content).result = .ok (document.body?.getD document.root) := by
  unfold Markup.Source.readFragment
  simp only [hparse]
  cases document.body? <;> rfl

theorem convertFragment_result {pc : PageConverter} {content : Markup.Content}
    {document : Markup.Document}
    (hparse : (pc.source.parse ("<body>" ++ content.decode)).result = .ok document)
    (calls : Calls) (elapsed : Int) :
    (pc.convertFragment content calls elapsed).result =
      ((pc.converter.elements (document.body?.getD document.root).childElements).exec
        ⟨calls, []⟩).1 := by
  rw [convertFragment_of_read (readFragment_result hparse)]

/-! ## Main statement -/

/-- Of one document with a body that becomes a container, the conversion of a fragment gives the
element children of this container, and so does the conversion of the elements in the body, each of
which is converted as it is on its own. Without a body the conversion of a document gives nothing,
and that of a fragment converts the elements at the top of the document. -/
theorem convertFragment_eq_children {pc : PageConverter} {content : Markup.Content} {page : Page}
    {document : Markup.Document} (hr : pc.converter.registry.OfClasses)
    (hparse : (pc.source.parse ("<body>" ++ content.decode)).result = .ok document)
    (hread : (pc.read page).result = .ok document) (calls calls' : Calls) (session : Session)
    (elapsed elapsed' : Int) :
    (∀ body type tag attributes below, document.body? = some body →
      pc.converter.ConvertsTo body (.element type tag attributes below) →
      type.ownsChildren = true →
      let trees := below.filter Tree.isElement
      (pc.convertDocument page calls elapsed).result =
          .ok (some (.element type tag attributes below)) ∧
        (pc.convertFragment content calls' elapsed').result = .ok trees ∧
        ((pc.converter.elements body.childElements).exec session).1 = .ok trees ∧
        List.Forall₂ pc.converter.ConvertsTo body.childElements trees) ∧
    (document.body? = none →
      let top := document.filter Markup.Node.isElement
      (pc.convertDocument page calls elapsed).result = .ok none ∧
        (pc.convertFragment content calls' elapsed').result =
          ((pc.converter.elements top).exec ⟨calls', []⟩).1 ∧
        ∀ trees, (pc.convertFragment content calls' elapsed').result = .ok trees ↔
          List.Forall₂ pc.converter.ConvertsTo top trees) := by
  have hdocument := convertDocument_result hread calls elapsed
  have hfragment := convertFragment_result hparse calls' elapsed'
  constructor
  · intro body type tag attributes below hbody hconverts howns trees
    rw [hbody] at hdocument hfragment
    have hall : List.Forall₂ pc.converter.ConvertsTo body.childElements trees :=
      hconverts.childElements hr (Markup.Document.isElement_of_body? hbody) howns
    have helements (session : Session) :
        ((pc.converter.elements body.childElements).exec session).1 = .ok trees :=
      (elements_eq_ok_iff hr (fun _ => Markup.Node.isElement_of_mem_childElements)
        session).mpr hall
    exact ⟨hdocument.trans (hconverts _), hfragment.trans (helements _), helements session, hall⟩
  · intro hbody top
    rw [hbody] at hdocument hfragment
    refine ⟨hdocument, hfragment, fun trees => ?_⟩
    rw [hfragment]
    exact elements_eq_ok_iff hr (fun _ hn => (List.mem_filter.mp hn).2) ⟨calls', []⟩

/-- A converter of pages whose parser always reads this document. -/
def badgePages (document : Markup.Document) : PageConverter where
  source := ⟨.null, .null, fun _ _ => .ok document⟩
  converter := badgeConverter

/-- What a badge is converted to. -/
def badgeTree (attributes : List (String × String)) : Tree :=
  .element (.semantic badge) "x-badge" attributes []

theorem output_badge {name : String} (h : Text.lower name = "x-badge") (parent : Option String)
    (attributes : List (String × Value)) (cs : List Markup.Node) :
    badgeConverter.output parent (.element name attributes cs) =
      some (badgeTree (copied [] attributes)) := by
  have hlower : Text.lower "x-badge" = "x-badge" := by decide +kernel
  have hclass : badgeConverter.class? name = some badge := by
    rw [← class?_lower, h, class?, hlower]
    rfl
  rw [output, typeOf, presetsOf, hclass, h]
  rfl

/-- A body with two badges, a text, a comment and a node without a category. -/
def badgeBody : Markup.Node :=
  .element "body" [] [.string .plain " To all ", .element "x-badge" [] [.string .plain "lost"],
    .string .comment " note ", .foreign "Odd", .element "X-BADGE" [("id", .int 1)] []]

/-- What this body is converted to. -/
def badgeBodyTree : Tree :=
  .element (.standard .blockContainer) "body" []
    [.text "To all", badgeTree [], .comment " note ", badgeTree [("id", "1")]]

theorem output_badgeBody : badgeConverter.output none badgeBody = some badgeBodyTree := by
  have hbody : Text.lower "body" = "body" := by decide +kernel
  have hshape : Shape.ofInfo (Catalog.resolve "body") = .blockContainer := by decide +kernel
  have hnotraw : Markup.isRawTextElement "body" = false := by decide +kernel
  have htext : Text.strip " To all " = "To all" := by decide +kernel
  have hnone : badgeConverter.class? "body" = none := by
    rw [class?, hbody]
    decide +kernel
  have hbadge := @output_badge "x-badge" (by decide +kernel)
  have hcapitals := @output_badge "X-BADGE" (by decide +kernel)
  rw [badgeBody, output]
  simp only [outputs, hbadge, hcapitals]
  simp [output, stringOutput, Markup.StringSort.category, typeOf, presetsOf, hbody, hshape, hnotraw,
    htext, hnone, badgeBodyTree, ElementType.ownsChildren, Shape.ownsChildren]
  exact ⟨rfl, rfl, rfl⟩

/-- A document without a body, with a badge behind a text. -/
def bareBadge : Markup.Document :=
  [.string .plain "To all", .element "x-badge" [] []]

theorem convertFragment_eq_children_badgeBody :
    badgeConverter.registry.OfClasses ∧
      ((badgePages [badgeBody]).source.parse
        ("<body>" ++ (Markup.Content.text "").decode)).result = .ok [badgeBody] ∧
      ((badgePages [badgeBody]).read (.parsed [badgeBody])).result = .ok [badgeBody] ∧
      ((badgePages [badgeBody]).convertDocument (.parsed [badgeBody]) [] 0).result =
        .ok (some badgeBodyTree) ∧
      ((badgePages [badgeBody]).convertFragment (.text "") [] 0).result =
        .ok [badgeTree [], badgeTree [("id", "1")]] ∧
      ((badgePages bareBadge).convertDocument (.parsed bareBadge) [] 0).result = .ok none ∧
      ((badgePages bareBadge).convertFragment (.text "") [] 0).result = .ok [badgeTree []] := by
  have hr : badgeConverter.registry.OfClasses := ofClasses_badgeConverter
  have hparse (document : Markup.Document) : ((badgePages document).source.parse
      ("<body>" ++ (Markup.Content.text "").decode)).result = .ok document := rfl
  have hread (document : Markup.Document) :
      ((badgePages document).read (.parsed document)).result = .ok document := rfl
  obtain ⟨hwith, -⟩ := @convertFragment_eq_children (badgePages [badgeBody]) _ _ _ hr
    (hparse [badgeBody]) (hread [badgeBody]) [] [] .initial 0 0
  obtain ⟨-, hwithout⟩ := @convertFragment_eq_children (badgePages bareBadge) _ _ _ hr
    (hparse bareBadge) (hread bareBadge) [] [] .initial 0 0
  have hbody : badgeConverter.ConvertsTo badgeBody badgeBodyTree :=
    (convertsTo_iff_output hr rfl rfl).mpr output_badgeBody
  have hbadge : badgeConverter.ConvertsTo (.element "x-badge" [] []) (badgeTree []) :=
    (convertsTo_iff_output hr rfl rfl).mpr (output_badge (by decide +kernel) none [] [])
  obtain ⟨hdocument, hfragment, -⟩ := hwith badgeBody _ _ _ _ rfl hbody rfl
  obtain ⟨hmissing, -, htop⟩ := hwithout rfl
  exact ⟨hr, hparse _, hread _, hdocument, hfragment, hmissing, (htop _).mpr (.cons hbadge .nil)⟩

end PageConverter

end TypedMarkup
