import TypedMarkup.Conversion.Page
import TypedMarkup.Proofs.Conversion.Output
import Mathlib.Data.List.Forall2

/-!
# The instances of a class in a document

`PageConverter.allOfClass` looks for the elements whose name is exactly the tag of a class in small
letters, while a converter takes a name in any case. `Converter.Instances` says what the search is
for: one result for each element of the document that converts to an instance of the class.

* `registered_iff`: with a class that is registered once, an element converts to an instance of it
  just when its name is its tag in any case;
* `allOfClass_named`: the search converts the elements with exactly this name, each to an instance;
* `allOfClass_instances_iff`: these are all instances just when every element with the tag in any
  case has it in small letters.
-/

namespace TypedMarkup

/-! ## The elements of a document -/

namespace Markup

namespace Node

/-- Whether the node is an element with this name in any case. -/
def hasNameLike (name : String) : Node → Bool
  | element n .. => Text.lower n == Text.lower name
  | string .. | foreign _ | absent => false

theorem hasNameLike_of_hasName {name : String} {n : Node}
    (h : n.hasName (Text.lower name) = true) : n.hasNameLike name = true := by
  cases n with
  | element m attributes cs =>
    rw [hasName, beq_iff_eq] at h
    rw [hasNameLike, h, Text.lower_lower, beq_self_eq_true]
  | _ => exact h

mutual

/-- The elements of a tree, in document order. -/
def elements : Node → List Node
  | element name attributes cs => element name attributes cs :: allElements cs
  | string .. => []
  | foreign _ => []
  | absent => []

/-- The elements of several trees, in document order. -/
def allElements : List Node → List Node
  | [] => []
  | n :: ns => elements n ++ allElements ns

end

mutual

/-- The elements of a name are found among all elements, in the same order. -/
theorem named_eq_filter (name : String) : (n : Node) →
    n.named name = n.elements.filter (hasName name)
  | element n attributes cs => by
    rw [named, elements, List.filter_cons, allNamed_eq_filter name cs]
    simp only [hasName, beq_iff_eq]
  | string .. => rfl
  | foreign _ => rfl
  | absent => rfl

theorem allNamed_eq_filter (name : String) : (ns : List Node) →
    allNamed name ns = (allElements ns).filter (hasName name)
  | [] => rfl
  | n :: ns => by
    rw [allNamed, allElements, List.filter_append, named_eq_filter name n,
      allNamed_eq_filter name ns]

end

mutual

/-- The elements of a plain tree are plain, and they are elements. -/
theorem isPlain_of_mem_elements {m : Node} : (n : Node) → n.isPlain = true → m ∈ n.elements →
    m.isElement = true ∧ m.isPlain = true
  | element name attributes cs, hn, h => by
    rw [elements, List.mem_cons] at h
    rcases h with rfl | h
    · exact ⟨rfl, hn⟩
    · rw [isPlain, Bool.and_eq_true] at hn
      exact isPlain_of_mem_allElements cs hn.2 h
  | string .., _, h => absurd h (List.not_mem_nil)
  | foreign _, _, h => absurd h (List.not_mem_nil)
  | absent, _, h => absurd h (List.not_mem_nil)

theorem isPlain_of_mem_allElements {m : Node} : (ns : List Node) → arePlain ns = true →
    m ∈ allElements ns → m.isElement = true ∧ m.isPlain = true
  | [], _, h => absurd h (List.not_mem_nil)
  | n :: ns, hns, h => by
    rw [arePlain, Bool.and_eq_true] at hns
    rw [allElements, List.mem_append] at h
    exact h.elim (isPlain_of_mem_elements n hns.1) (isPlain_of_mem_allElements ns hns.2)

end

end Node

/-- The elements of a document at any depth, in document order. -/
def Document.elements (document : Document) : List Node :=
  Node.allElements document

end Markup

/-! ## Names and classes -/

namespace Converter

variable {cv : Converter} {c : SemanticClass}

/-- The elements that are built by a class which is registered once are those with its tag in any
case. -/
theorem registered_iff (hr : cv.registry.OfClasses) (hc : cv.registry.RegisteredOnce c)
    (name : String) : cv.class? name = some c ↔ Text.lower name = Text.lower c.tag := by
  obtain ⟨d, hm, hd, -⟩ := hc.exists_definition hr
  constructor
  · intro h
    rcases class?_cases hr name with ⟨_, c', -, -, htag, hclass⟩ | ⟨-, hclass⟩
    · rw [hclass] at h
      rw [htag, Option.some.inj h]
    · rw [hclass] at h
      exact absurd h (by simp)
  · intro h
    have hlookup : cv.registry.lookup? (Text.lower name) = some d :=
      hr.lookup?_of_mem (by rwa [Text.lower_lower, h])
    unfold class?
    simp only [hlookup, hd.constructor]

/-! ## Instances -/

/-- An element converts to a tree, whatever has been converted before. -/
def ConvertsTo (cv : Converter) (n : Markup.Node) (t : Tree) : Prop :=
  ∀ session, ((cv.element n).exec session).1 = .ok (some t)

/-- The trees are the conversions of those among the elements that convert to an instance of the
class itself, one for each of them and in their order. -/
inductive Instances (cv : Converter) (c : SemanticClass) : List Markup.Node → List Tree → Prop where
  | nil : Instances cv c [] []
  | hit {n : Markup.Node} {t : Tree} {ns : List Markup.Node} {ts : List Tree} :
      cv.ConvertsTo n t → t.class? = some c → Instances cv c ns ts →
      Instances cv c (n :: ns) (t :: ts)
  | miss {n : Markup.Node} {t : Tree} {ns : List Markup.Node} {ts : List Tree} :
      cv.ConvertsTo n t → t.class? ≠ some c → Instances cv c ns ts → Instances cv c (n :: ns) ts

theorem ConvertsTo.unique {n : Markup.Node} {t u : Tree} (ht : cv.ConvertsTo n t)
    (hu : cv.ConvertsTo n u) : t = u := by
  have h := (ht .initial).symm.trans (hu .initial)
  exact Option.some.inj (Except.ok.inj h)

/-- A plain element converts to its output. -/
theorem convertsTo_iff_output (hr : cv.registry.OfClasses) {n : Markup.Node} {t : Tree}
    (he : n.isElement = true) (hn : n.isPlain = true) :
    cv.ConvertsTo n t ↔ cv.output none n = some t := by
  have hrun (session : Session) := congrArg Prod.fst (element_exec hr he hn session)
  constructor
  · intro h
    exact Except.ok.inj ((hrun .initial).symm.trans (h .initial))
  · exact fun h session => (hrun session).trans (congrArg Except.ok h)

/-- A plain element converts to a tree of the class that is registered for its name. -/
theorem exists_convertsTo (hr : cv.registry.OfClasses) {name : String}
    {attributes : List (String × Value)} {cs : List Markup.Node}
    (hn : (Markup.Node.element name attributes cs).isPlain = true) :
    ∃ t, cv.ConvertsTo (.element name attributes cs) t ∧ t.class? = cv.class? name := by
  obtain ⟨t, ht⟩ : ∃ t, cv.output none (.element name attributes cs) = some t := ⟨_, rfl⟩
  refine ⟨t, (convertsTo_iff_output hr rfl hn).mpr ht, ?_⟩
  rw [output] at ht
  rw [← Option.some.inj ht, Tree.class?, typeOf]
  cases cv.class? name <;> rfl

/-- A plain element converts to an instance of a class that is registered once just when its name is
the tag of the class in any case. -/
theorem exists_convertsTo_iff (hr : cv.registry.OfClasses) (hc : cv.registry.RegisteredOnce c)
    {n : Markup.Node} (he : n.isElement = true) (hn : n.isPlain = true) :
    ∃ t, cv.ConvertsTo n t ∧ (t.class? = some c ↔ n.hasNameLike c.tag = true) := by
  obtain ⟨name, attributes, cs, rfl⟩ := Markup.Node.exists_of_isElement he
  obtain ⟨t, ht, hclass⟩ := exists_convertsTo hr hn
  refine ⟨t, ht, ?_⟩
  rw [hclass, registered_iff hr hc, Markup.Node.hasNameLike, beq_iff_eq]

/-- There are as many instances as elements with the tag of the class in any case. -/
theorem Instances.length_eq (hr : cv.registry.OfClasses) (hc : cv.registry.RegisteredOnce c)
    {ns : List Markup.Node} {ts : List Tree}
    (hns : ∀ n ∈ ns, n.isElement = true ∧ n.isPlain = true) (h : cv.Instances c ns ts) :
    ts.length = (ns.filter (Markup.Node.hasNameLike c.tag)).length := by
  induction h with
  | nil => rfl
  | @hit n t ns ts hconv hclass _ ih =>
    obtain ⟨he, hp⟩ := hns n List.mem_cons_self
    obtain ⟨u, hu, hiff⟩ := exists_convertsTo_iff hr hc he hp
    rw [hconv.unique hu] at hclass
    rw [List.filter_cons_of_pos (hiff.mp hclass), List.length_cons, List.length_cons,
      ih fun m hm => hns m (List.mem_cons_of_mem n hm)]
  | @miss n t ns ts hconv hclass _ ih =>
    obtain ⟨he, hp⟩ := hns n List.mem_cons_self
    obtain ⟨u, hu, hiff⟩ := exists_convertsTo_iff hr hc he hp
    rw [hconv.unique hu] at hclass
    rw [List.filter_cons_of_neg fun hlike => hclass (hiff.mpr hlike),
      ih fun m hm => hns m (List.mem_cons_of_mem n hm)]

/-- The conversions of the elements with a name are the instances if every element with the tag of
the class in any case has this name, and only such elements have it. -/
theorem instances_of_forall₂ (hr : cv.registry.OfClasses) (hc : cv.registry.RegisteredOnce c)
    {name : String} {ns : List Markup.Node} {ts : List Tree}
    (hns : ∀ n ∈ ns, n.isElement = true ∧ n.isPlain = true)
    (hname : ∀ n ∈ ns, n.hasNameLike c.tag = true ↔ n.hasName name = true)
    (h : List.Forall₂ (fun n t => cv.ConvertsTo n t ∧ t.class? = some c)
      (ns.filter (Markup.Node.hasName name)) ts) : cv.Instances c ns ts := by
  induction ns generalizing ts with
  | nil =>
    rw [List.filter_nil, List.forall₂_nil_left_iff] at h
    rw [h]
    exact .nil
  | cons n ns ih =>
    have hns' : ∀ m ∈ ns, m.isElement = true ∧ m.isPlain = true :=
      fun m hm => hns m (List.mem_cons_of_mem n hm)
    have hname' : ∀ m ∈ ns, m.hasNameLike c.tag = true ↔ m.hasName name = true :=
      fun m hm => hname m (List.mem_cons_of_mem n hm)
    by_cases hn : n.hasName name = true
    · rw [List.filter_cons_of_pos hn, List.forall₂_cons_left_iff] at h
      obtain ⟨t, rest, ⟨hconv, hclass⟩, hrest, rfl⟩ := h
      exact .hit hconv hclass (ih hns' hname' hrest)
    · rw [List.filter_cons_of_neg hn] at h
      obtain ⟨he, hp⟩ := hns n List.mem_cons_self
      obtain ⟨t, hconv, hiff⟩ := exists_convertsTo_iff hr hc he hp
      refine .miss hconv (fun hclass => hn ?_) (ih hns' hname' h)
      exact (hname n List.mem_cons_self).mp (hiff.mp hclass)

end Converter

/-! ## The search -/

namespace PageConverter

variable {cv : Converter} {c : SemanticClass}

/-- Converting elements with the tag of a class gives an instance for each of them. -/
theorem instances_exec (hr : cv.registry.OfClasses) (hc : cv.registry.RegisteredOnce c)
    {ns : List Markup.Node}
    (hns : ∀ n ∈ ns, n.isElement = true ∧ n.isPlain = true ∧ n.hasNameLike c.tag = true)
    (session : Session) :
    ∃ ts session', (instances cv c ns).exec session = (.ok ts, session') ∧
      List.Forall₂ (fun n t => cv.ConvertsTo n t ∧ t.class? = some c) ns ts := by
  induction ns generalizing session with
  | nil => exact ⟨[], session, rfl, .nil⟩
  | cons n ns ih =>
    obtain ⟨he, hp, hlike⟩ := hns n List.mem_cons_self
    obtain ⟨t, hconv, hiff⟩ := Converter.exists_convertsTo_iff hr hc he hp
    have hclass := hiff.mpr hlike
    have hinstance : t.isInstance c.name = true := by
      simp [Tree.isInstance, hclass, SemanticClass.isA]
    have hfirst : (cv.element n).exec session =
        (.ok (some t), ((cv.element n).exec session).2) := Prod.ext (hconv session) rfl
    obtain ⟨ts, session', hrest, hts⟩ := ih (fun m hm => hns m (List.mem_cons_of_mem n hm))
      ((cv.element n).exec session).2
    refine ⟨t :: ts, session', ?_, .cons ⟨hconv, hclass⟩ hts⟩
    rw [instances, Conversion.exec_bind_ok hfirst, Conversion.exec_bind_ok hrest,
      Conversion.exec_pure, Option.toList, List.filter_cons_of_pos hinstance]
    rfl

/-- The search for a class that is registered once gives a result for each element whose name is
exactly the tag of the class in small letters, and nothing else. -/
theorem allOfClass_named {pc : PageConverter} {page : Page} {document : Markup.Document}
    (hr : pc.converter.registry.OfClasses) (hc : pc.converter.registry.RegisteredOnce c)
    (hread : (pc.read page).result = .ok document)
    (hplain : Markup.Node.arePlain document = true) (calls : Calls) :
    ∃ trees, (pc.allOfClass page c calls).result = .ok trees ∧
      List.Forall₂ (fun n t => pc.converter.ConvertsTo n t ∧ t.class? = some c)
        (document.elements.filter (Markup.Node.hasName (Text.lower c.tag))) trees := by
  obtain ⟨-, -, -, htag⟩ := hc.exists_definition hr
  have hfind : document.findAll (Text.lower c.tag) =
      document.elements.filter (Markup.Node.hasName (Text.lower c.tag)) :=
    Markup.Node.allNamed_eq_filter _ document
  have hns : ∀ n ∈ document.findAll (Text.lower c.tag),
      n.isElement = true ∧ n.isPlain = true ∧ n.hasNameLike c.tag = true := by
    intro n hn
    rw [hfind, List.mem_filter] at hn
    obtain ⟨he, hp⟩ := Markup.Node.isPlain_of_mem_allElements document hplain hn.1
    exact ⟨he, hp, Markup.Node.hasNameLike_of_hasName hn.2⟩
  obtain ⟨trees, session, hexec, hmatch⟩ := instances_exec hr hc hns ⟨calls, []⟩
  rw [hfind] at hmatch
  refine ⟨trees, ?_, hmatch⟩
  unfold allOfClass convertRead
  simp only [htag, hread, hexec, Report.note]

/-- The search for a class that is registered once never fails on a plain document. It gives exactly
one result for each element that converts to an instance of the class, in document order, just when
every element whose name is the tag of the class in any case has it in small letters. -/
theorem allOfClass_instances_iff {pc : PageConverter} {page : Page} {document : Markup.Document}
    (hr : pc.converter.registry.OfClasses) (hc : pc.converter.registry.RegisteredOnce c)
    (hread : (pc.read page).result = .ok document)
    (hplain : Markup.Node.arePlain document = true) (calls : Calls) :
    ∃ trees, (pc.allOfClass page c calls).result = .ok trees ∧
      List.Forall₂ (fun n t => pc.converter.ConvertsTo n t ∧ t.class? = some c)
        (document.elements.filter (Markup.Node.hasName (Text.lower c.tag))) trees ∧
      (pc.converter.Instances c document.elements trees ↔
        ∀ n ∈ document.elements, n.hasNameLike c.tag = true →
          n.hasName (Text.lower c.tag) = true) := by
  obtain ⟨trees, hresult, hmatch⟩ := allOfClass_named hr hc hread hplain calls
  have hns : ∀ n ∈ document.elements, n.isElement = true ∧ n.isPlain = true := fun _ hn =>
    Markup.Node.isPlain_of_mem_allElements document hplain hn
  refine ⟨trees, hresult, hmatch, fun h => ?_, fun h => ?_⟩
  · -- otherwise there are fewer elements with the exact name than instances
    have hlength := h.length_eq hr hc hns
    rw [← hmatch.length_eq] at hlength
    have hfilter : document.elements.filter (Markup.Node.hasName (Text.lower c.tag)) =
        (document.elements.filter (Markup.Node.hasNameLike c.tag)).filter
          (Markup.Node.hasName (Text.lower c.tag)) := by
      rw [List.filter_filter]
      refine List.filter_congr fun n _ => ?_
      cases hn : n.hasName (Text.lower c.tag)
      · rfl
      · rw [Markup.Node.hasNameLike_of_hasName hn]
        rfl
    rw [hfilter, List.length_filter_eq_length_iff] at hlength
    exact fun n hn hlike => hlength n (List.mem_filter.mpr ⟨hn, hlike⟩)
  · exact Converter.instances_of_forall₂ hr hc hns
      (fun n hn => ⟨h n hn, Markup.Node.hasNameLike_of_hasName⟩) hmatch

/-- A class whose tag has a capital letter. -/
def foreign : SemanticClass :=
  ⟨"Foreign", [], .container, "foreignObject", .block, []⟩

/-- A converter of pages that knows this class; its parser reads nothing. -/
def foreignConverter : PageConverter where
  source := ⟨.null, .null, fun _ _ => .ok []⟩
  converter :=
    ⟨(Registry.add ⟨.ofClass foreign, foreign, Text.lower foreign.tag, false⟩ .empty).1, true⟩

theorem ofClasses_foreignConverter : foreignConverter.converter.registry.OfClasses :=
  .add .empty (Definition.make_of_declared rfl (by decide) none [])

theorem registeredOnce_foreignConverter :
    foreignConverter.converter.registry.RegisteredOnce foreign := by
  refine ⟨_, _, List.mem_singleton_self _, rfl, rfl, fun entry he _ => ?_⟩
  exact List.mem_singleton.mp he

/-- A drawing with an element of the class, named as the tag is declared. -/
def drawing : Markup.Document :=
  [.element "svg" [] [.element "foreignObject" [] [.string .plain "x"]]]

/-- The search misses the element in the drawing. -/
theorem allOfClass_instances_iff_drawing :
    foreignConverter.converter.registry.OfClasses ∧
      foreignConverter.converter.registry.RegisteredOnce foreign ∧
      (foreignConverter.read (.parsed drawing)).result = .ok drawing ∧
      Markup.Node.arePlain drawing = true ∧
      ∃ trees, (foreignConverter.allOfClass (.parsed drawing) foreign []).result = .ok trees ∧
        trees = [] ∧ ¬ foreignConverter.converter.Instances foreign drawing.elements trees := by
  have hread : (foreignConverter.read (.parsed drawing)).result = .ok drawing := rfl
  have hplain : Markup.Node.arePlain drawing = true := rfl
  refine ⟨ofClasses_foreignConverter, registeredOnce_foreignConverter, hread, hplain, ?_⟩
  obtain ⟨trees, hresult, hmatch, hiff⟩ := allOfClass_instances_iff ofClasses_foreignConverter
    registeredOnce_foreignConverter hread hplain []
  have htag : Text.lower foreign.tag = "foreignobject" := by decide +kernel
  have helements : drawing.elements = [.element "svg" [] [.element "foreignObject" []
    [.string .plain "x"]], .element "foreignObject" [] [.string .plain "x"]] := rfl
  rw [htag, helements] at hmatch hiff
  refine ⟨trees, hresult, List.forall₂_nil_left_iff.mp hmatch, fun h => ?_⟩
  rw [helements] at h
  have hname := hiff.mp h _ (List.mem_cons_of_mem _ List.mem_cons_self) (beq_self_eq_true _)
  exact absurd hname (by decide)

end PageConverter

end TypedMarkup
