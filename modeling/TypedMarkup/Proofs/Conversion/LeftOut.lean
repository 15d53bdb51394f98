import TypedMarkup.Proofs.Conversion.Fragments
import TypedMarkup.Proofs.Position

/-!
# What a conversion leaves out

A node without a category is left out, and reported if the converter reports such nodes.
`Converter.LeavesOut` says of each position of the input on its own whether the node there is left
out; `Converter.leftOut` lists these nodes as a conversion comes to them.

* `leftOut_spec`: the list has exactly these nodes, each once and in document order;
* `names_leftOut`: the names of their types are what a conversion reports;
* `unknown_reported`: what is reported of a node and of a fragment, and that nothing else hangs on
  whether it is.
-/

namespace TypedMarkup

/-- Whether the node is there and has no category in an element named `parent`, or in none. -/
def Markup.Node.isUnknown (parent : Option String) : Node → Bool
  | string sort _ => sort.category parent == .unknown
  | foreign _ => true
  | element .. | absent => false

theorem Markup.Node.isUnknown_iff {parent : Option String} {n : Node} :
    n.isUnknown parent = true ↔ n ≠ .absent ∧ n.category parent = .unknown := by
  cases n <;> simp [isUnknown, category]

namespace Converter

variable {cv : Converter} {parent : Option String} {root n : Markup.Node}

/-! ## Nodes without a category -/

/-- A node at a position of the input that a conversion comes to and has no category for. Where
there is no node there is nothing to leave out. -/
structure LeavesOut (cv : Converter) (parent : Option String) (root : Markup.Node) (p : Position)
    (n : Markup.Node) : Prop where
  reached : cv.Reaches root p n
  present : n ≠ .absent
  unknown : n.category (root.around parent p) = .unknown

/-- These are all nodes that are left out, with their positions, in document order. -/
structure AllLeftOut (cv : Converter) (parent : Option String) (root : Markup.Node)
    (nodes : List (Position × Markup.Node)) : Prop where
  all : ∀ p n, (p, n) ∈ nodes ↔ cv.LeavesOut parent root p n
  in_order : (nodes.map Prod.fst).Pairwise (· < ·)

theorem leavesOut_nil :
    cv.LeavesOut parent root [] n ↔ root = n ∧ n.isUnknown parent = true := by
  rw [Markup.Node.isUnknown_iff]
  constructor
  · exact fun h => ⟨reaches_nil.mp h.reached, h.present, by
      simpa only [Markup.Node.around_nil] using h.unknown⟩
  · exact fun ⟨h, hp, hu⟩ => ⟨reaches_nil.mpr h, hp, by rwa [Markup.Node.around_nil]⟩

/-- A node below the root is left out just when the root is an element that does not become void,
and the node is left out in the child that holds it. -/
theorem leavesOut_cons {i : Nat} {p : Position} :
    cv.LeavesOut parent root (i :: p) n ↔
      ∃ name attributes cs c, root = .element name attributes cs ∧ cv.makesVoid name = false ∧
        cs[i]? = some c ∧ cv.LeavesOut (some name) c p n := by
  constructor
  · intro h
    obtain ⟨name, attributes, cs, c, rfl, hv, hc, hreach⟩ := reaches_cons.mp h.reached
    refine ⟨name, attributes, cs, c, rfl, hv, hc, hreach, h.present, ?_⟩
    have hunknown := h.unknown
    rwa [Markup.Node.around_cons hc] at hunknown
  · rintro ⟨name, attributes, cs, c, rfl, hv, hc, h⟩
    refine ⟨reaches_cons.mpr ⟨name, attributes, cs, c, rfl, hv, hc, h.reached⟩, h.present, ?_⟩
    rw [Markup.Node.around_cons (show (Markup.Node.element name attributes cs).children[i]? = _
      from hc)]
    exact h.unknown

theorem not_leavesOut_element_nil {name : String} {attributes : List (String × Value)}
    {cs : List Markup.Node} : ¬ cv.LeavesOut parent (.element name attributes cs) [] n := by
  rw [leavesOut_nil]
  rintro ⟨rfl, h⟩
  exact Bool.false_ne_true h

theorem leavesOut_element_cons {name : String} {attributes : List (String × Value)}
    {cs : List Markup.Node} {i : Nat} {p : Position} :
    cv.LeavesOut parent (.element name attributes cs) (i :: p) n ↔
      cv.makesVoid name = false ∧ ∃ c, cs[i]? = some c ∧ cv.LeavesOut (some name) c p n := by
  rw [leavesOut_cons]
  constructor
  · rintro ⟨_, _, _, c, he, hvoid, hc, h⟩
    obtain ⟨rfl, rfl, rfl⟩ := Markup.Node.element.inj he
    exact ⟨hvoid, c, hc, h⟩
  · exact fun ⟨hvoid, c, hc, h⟩ => ⟨name, attributes, cs, c, rfl, hvoid, hc, h⟩

/-! ## The list of the nodes left out -/

mutual

/-- The nodes that the conversion of a node in an element named `parent`, or in none, leaves out,
with their positions. -/
def leftOut (cv : Converter) (parent : Option String) :
    Markup.Node → List (Position × Markup.Node)
  | .element name _ cs =>
    if (cv.typeOf name).ownsChildren then Position.below 0 (cv.leftOuts name cs) else []
  | .string sort data =>
    if sort.category parent = .unknown then [([], .string sort data)] else []
  | .foreign typeName => [([], .foreign typeName)]
  | .absent => []

/-- The same for each of the nodes in an element named `parent`. -/
def leftOuts (cv : Converter) (parent : String) :
    List Markup.Node → List (List (Position × Markup.Node))
  | [] => []
  | n :: ns => cv.leftOut (some parent) n :: cv.leftOuts parent ns

end

theorem leftOuts_eq_map (cv : Converter) (parent : String) (ns : List Markup.Node) :
    cv.leftOuts parent ns = ns.map (cv.leftOut (some parent)) := by
  induction ns with
  | nil => rfl
  | cons n ns ih => rw [leftOuts, ih, List.map_cons]

mutual

/-- The names of the types of these nodes are those that a conversion reports. -/
theorem names_leftOut (cv : Converter) (parent : Option String) : (n : Markup.Node) →
    (cv.leftOut parent n).map (fun l => l.2.typeName) = cv.skipped parent n
  | .element name _ cs => by
    rw [leftOut, skipped, ← names_leftOuts cv name cs, ← Position.map_snd_below _ 0]
    cases (cv.typeOf name).ownsChildren <;> rfl
  | .string sort data => by
    rw [leftOut, skipped]
    split <;> rfl
  | .foreign _ => rfl
  | .absent => rfl

theorem names_leftOuts (cv : Converter) (parent : String) : (ns : List Markup.Node) →
    ((cv.leftOuts parent ns).flatMap fun ls => ls.map fun l => l.2.typeName) =
      cv.skippedBelow parent ns
  | [] => rfl
  | n :: ns => by
    rw [leftOuts, List.flatMap_cons, names_leftOut cv (some parent) n,
      names_leftOuts cv parent ns, skippedBelow]

end

/-- What is left out of a node that is no element is the node or nothing. -/
theorem leftOut_spec_of_leaf (he : n.isElement = false)
    (h : cv.leftOut parent n = if n.isUnknown parent = true then [([], n)] else []) :
    cv.AllLeftOut parent n (cv.leftOut parent n) := by
  rw [h]
  refine ⟨fun p m => ?_, by split <;> simp⟩
  cases p with
  | nil =>
    rw [leavesOut_nil]
    split
    · rename_i hn
      rw [List.mem_singleton, Prod.mk.injEq]
      exact ⟨fun ⟨_, hm⟩ => ⟨hm.symm, hm ▸ hn⟩, fun ⟨hm, _⟩ => ⟨rfl, hm.symm⟩⟩
    · rename_i hn
      exact ⟨fun hm => absurd hm List.not_mem_nil, fun ⟨hm, hu⟩ => absurd (hm ▸ hu) hn⟩
  | cons i p =>
    constructor
    · intro hm
      split at hm <;> simp at hm
    · intro hl
      obtain ⟨_, _, _, _, rfl, -⟩ := leavesOut_cons.mp hl
      exact absurd he (by simp [Markup.Node.isElement])

/-- All nodes that are left out are listed. -/
theorem leftOut_spec (hr : cv.registry.OfClasses) (parent : Option String) (n : Markup.Node) :
    cv.AllLeftOut parent n (cv.leftOut parent n) := by
  induction n using Markup.Node.induction generalizing parent with
  | step n ih =>
    cases n with
    | element name attributes cs =>
      rw [leftOut, ownsChildren_typeOf hr, leftOuts_eq_map]
      cases hvoid : cv.makesVoid name with
      | true =>
        refine ⟨fun p m => iff_of_false List.not_mem_nil ?_, List.Pairwise.nil⟩
        cases p with
        | nil => exact not_leavesOut_element_nil
        | cons i p => simp [leavesOut_element_cons, hvoid]
      | false =>
        refine ⟨fun p m => ?_, Position.pairwise_below 0 (List.forall_mem_map.mpr fun c hc =>
          (ih c hc (some name)).in_order)⟩
        cases p with
        | nil => exact iff_of_false (Position.nil_not_mem_below 0 _ m) not_leavesOut_element_nil
        | cons i p =>
          rw [leavesOut_element_cons, and_iff_right hvoid]
          refine Position.mem_below_map.trans (exists_congr fun c => and_congr_right fun hc => ?_)
          exact (ih c (List.mem_of_getElem? hc) (some name)).all p m
    | string sort data => exact leftOut_spec_of_leaf rfl (by simp [leftOut, Markup.Node.isUnknown])
    | foreign typeName => exact leftOut_spec_of_leaf rfl rfl
    | absent => exact leftOut_spec_of_leaf rfl rfl

/-! ## Main statement -/

mutual

/-- The output of a node does not hang on whether nodes are reported. -/
theorem output_silent (r : Registry) (parent : Option String) : (n : Markup.Node) →
    output ⟨r, false⟩ parent n = output ⟨r, true⟩ parent n
  | .element name _ cs => by
    rw [output, output, outputs_silent r name cs]
    rfl
  | .string .. => rfl
  | .foreign _ => rfl
  | .absent => rfl

theorem outputs_silent (r : Registry) (parent : String) : (ns : List Markup.Node) →
    outputs ⟨r, false⟩ parent ns = outputs ⟨r, true⟩ parent ns
  | [] => rfl
  | n :: ns => by
    rw [outputs, outputs, output_silent r (some parent) n, outputs_silent r parent ns]

end

theorem forall₂_leftOut (hr : cv.registry.OfClasses) (ns : List Markup.Node) :
    List.Forall₂ (cv.AllLeftOut none) ns (ns.map (cv.leftOut none)) := by
  rw [List.forall₂_map_right_iff, List.forall₂_same]
  exact fun n _ => leftOut_spec hr none n

theorem names_leftOut_flatten (cv : Converter) (ns : List Markup.Node) :
    (ns.map (cv.leftOut none)).flatten.map (fun l => l.2.typeName) =
      ns.flatMap (cv.skipped none) := by
  rw [List.map_flatten, List.map_map, ← List.flatMap_def]
  exact List.flatMap_congr fun n _ => names_leftOut cv none n

/-- With a registry of element classes and plain attribute values, a converter that reports nodes
without a category reports exactly those that it leaves out, each once, in document order and by the
name of its type; one that does not report them has the same output. Of a fragment these are the
nodes left out in each of its elements in turn, so that nothing is said of those between the
elements. -/
theorem unknown_reported {r : Registry} (hr : r.OfClasses) :
    (∀ (parent : Option String) (n : Markup.Node) (session : Session), n.isPlain = true →
      ∃ out nodes, AllLeftOut ⟨r, true⟩ parent n nodes ∧
        (node ⟨r, true⟩ parent n).exec session =
          (.ok out, { session with
            unknown := session.unknown ++ nodes.map fun l => l.2.typeName }) ∧
        (node ⟨r, false⟩ parent n).exec session = (.ok out, session)) ∧
    ∀ (source : Markup.Source) (content : Markup.Content) (body : Markup.Node) (calls : Calls)
        (elapsed : Int),
      (source.readFragment content).result = .ok body → body.isPlain = true →
      let reporting := PageConverter.convertFragment ⟨source, ⟨r, true⟩⟩ content calls elapsed
      let silent := PageConverter.convertFragment ⟨source, ⟨r, false⟩⟩ content calls elapsed
      let reading := (source.readFragment content).notices
      ∃ trees lists, List.Forall₂ (AllLeftOut ⟨r, true⟩ none) body.childElements lists ∧
        reporting.result = .ok trees ∧ silent.result = .ok trees ∧
        reporting.notices = reading ++
          lists.flatten.map (fun l => .unknownNode l.2.typeName) ++
            [PageConverter.took "convert_fragment" elapsed] ∧
        silent.notices = reading ++ [PageConverter.took "convert_fragment" elapsed] := by
  refine ⟨fun parent n session hn => ?_, fun source content body calls elapsed hread hbody => ?_⟩
  · refine ⟨output ⟨r, true⟩ parent n, leftOut ⟨r, true⟩ parent n, leftOut_spec hr parent n, ?_, ?_⟩
    · rw [node_exec hr parent n hn session, names_leftOut]
      rfl
    · rw [@node_exec ⟨r, false⟩ hr parent n hn session, output_silent]
      rfl
  · have helements : ∀ n ∈ body.childElements, n.isElement = true ∧ n.isPlain = true :=
      fun n hn => ⟨Markup.Node.isElement_of_mem_childElements hn,
        Markup.Node.isPlain_of_mem_childElements hbody hn⟩
    have houtput : output ⟨r, false⟩ none = output ⟨r, true⟩ none :=
      funext fun n => output_silent r none n
    have hunknown : (body.childElements.map (leftOut ⟨r, true⟩ none)).flatten.map
        (fun l => .unknownNode l.2.typeName) =
          (body.childElements.flatMap (skipped ⟨r, true⟩ none)).map Notice.unknownNode := by
      rw [← names_leftOut_flatten, List.map_map]
      rfl
    simp only [@PageConverter.convertFragment_of_read ⟨source, ⟨r, true⟩⟩ _ _ hread,
      @PageConverter.convertFragment_of_read ⟨source, ⟨r, false⟩⟩ _ _ hread,
      @elements_exec ⟨r, true⟩ hr _ helements, @elements_exec ⟨r, false⟩ hr _ helements]
    refine ⟨_, _, forall₂_leftOut hr body.childElements, rfl, ?_, ?_, ?_⟩
    · rw [houtput]
    · rw [hunknown]
      rfl
    · rw [Session.note, if_neg Bool.false_ne_true, List.map_nil, List.append_nil]

/-- A body with nodes without a category directly in it, in an element, in a badge and below the
element. -/
def strayBody : Markup.Node :=
  .element "body" [] [.string .doctype "html", .element "div" [] [.string .declaration "a",
    .element "x-badge" [] [.string .declaration "b"],
    .element "p" [] [.string .processing "c"]]]

/-- A source whose parser always reads this body. -/
def straySource : Markup.Source :=
  ⟨.null, .null, fun _ _ => .ok [strayBody]⟩

/-- Nothing is said of what is in the badge, since badges become void, and in the conversion of a
fragment nothing of what is directly in the body. -/
theorem unknown_reported_strayBody :
    badgeConverter.registry.OfClasses ∧ strayBody.isPlain = true ∧
      (straySource.readFragment (.text "")).result = .ok strayBody ∧
      (∃ nodes, badgeConverter.AllLeftOut none strayBody nodes ∧
        nodes.map (fun l => l.2.typeName) = ["Doctype", "Declaration", "ProcessingInstruction"]) ∧
      ∃ lists, List.Forall₂ (badgeConverter.AllLeftOut none) strayBody.childElements lists ∧
        lists.flatten.map (fun l => l.2.typeName) = ["Declaration", "ProcessingInstruction"] := by
  have hplain : strayBody.isPlain = true := rfl
  have hread : (straySource.readFragment (.text "")).result = .ok strayBody := rfl
  have hreports : (⟨badgeConverter.registry, true⟩ : Converter) = badgeConverter := rfl
  obtain ⟨hnode, hfragment⟩ := unknown_reported ofClasses_badgeConverter
  simp only [hreports] at hnode hfragment
  obtain ⟨out, nodes, hall, hout, -⟩ := hnode none strayBody .initial hplain
  obtain ⟨-, lists, hlists, -, -, hnotices, -⟩ :=
    hfragment straySource (.text "") strayBody [] 0 hread hplain
  refine ⟨ofClasses_badgeConverter, hplain, hread, ⟨nodes, hall, ?_⟩, lists, hlists, ?_⟩
  · have hunknown : ((badgeConverter.node none strayBody).exec .initial).2.unknown =
        ["Doctype", "Declaration", "ProcessingInstruction"] := by
      decide +kernel
    rw [hout] at hunknown
    exact hunknown
  · have htypes : (PageConverter.convertFragment ⟨straySource, badgeConverter⟩
        (.text "") [] 0).notices.filterMap (fun notice => notice.record.nodeType) =
          ["Declaration", "ProcessingInstruction"] := by
      decide +kernel
    have hreading : (straySource.readFragment (.text "")).notices = [] := rfl
    rw [hnotices, hreading, List.nil_append, List.filterMap_append, List.filterMap_map] at htypes
    simpa [Notice.record, PageConverter.took, Function.comp_def] using htypes

end Converter

end TypedMarkup
