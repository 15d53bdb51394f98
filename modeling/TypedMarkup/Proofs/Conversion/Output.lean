import TypedMarkup.Conversion.Basic
import TypedMarkup.Proofs.Entries
import TypedMarkup.Proofs.Registry.Classes

/-!
# The output of a conversion

With a registry of element classes, and attribute values that are plain, a conversion cannot fail:
`Converter.output` is the tree it gives and `Converter.skipped` the names of the types of the nodes
it leaves out, both as functions of the node alone. `node_exec` says that running the converter
gives this output and reports these nodes, whatever the session; `element_exec` and `elements_exec`
say the same of an element that is converted on its own, and of several in turn.
-/

namespace TypedMarkup

/-! ## Plain values -/

/-- The text that a value is, if it is one. -/
def Value.text? : Value → Option String
  | text s => some s
  | _ => none

/-- Whether a value is null, a truth value, a number, a text or a list of texts. -/
def Value.isPlain : Value → Bool
  | null | bool _ | int _ | double _ | text _ => true
  | list items => items.all fun v => v.text?.isSome
  | table _ => false

/-- Whether a value has a text as an attribute: a list has one when all its items are texts. -/
def Value.hasText : Value → Bool
  | list items => items.all fun v => v.text?.isSome
  | null | bool _ | int _ | double _ | text _ | table _ => true

theorem Value.hasText_of_isPlain {v : Value} (h : v.isPlain = true) : v.hasText = true := by
  cases v with
  | list items => exact h
  | _ => rfl

/-- The text of a value in the output, if it has one: a list is joined with single spaces. -/
def Value.outputText : Value → String
  | list items => Text.join " " (items.filterMap Value.text?)
  | v => v.attributeText

namespace Markup

mutual

/-- Whether all attribute values in a tree are plain. -/
def Node.isPlain : Node → Bool
  | .element _ attributes cs => (attributes.all fun a => a.2.isPlain) && Node.arePlain cs
  | .string .. => true
  | .foreign _ => true
  | .absent => true

/-- Whether all attribute values in several trees are plain. -/
def Node.arePlain : List Node → Bool
  | [] => true
  | n :: ns => Node.isPlain n && Node.arePlain ns

end

theorem Node.isPlain_of_mem {n : Node} {ns : List Node} (hns : Node.arePlain ns = true)
    (h : n ∈ ns) : n.isPlain = true := by
  induction ns with
  | nil => exact absurd h List.not_mem_nil
  | cons m ns ih =>
    rw [arePlain, Bool.and_eq_true] at hns
    rcases List.mem_cons.mp h with rfl | h
    · exact hns.1
    · exact ih hns.2 h

/-- The children of a plain node are plain. -/
theorem Node.isPlain_of_mem_children {n c : Node} (hn : n.isPlain = true)
    (h : c ∈ n.children) : c.isPlain = true := by
  cases n with
  | element name attributes cs =>
    rw [isPlain, Bool.and_eq_true] at hn
    exact isPlain_of_mem hn.2 h
  | string | foreign | absent => exact absurd h List.not_mem_nil

theorem Node.exists_of_isElement {n : Node} (h : n.isElement = true) :
    ∃ name attributes cs, n = .element name attributes cs := by
  cases n with
  | element name attributes cs => exact ⟨name, attributes, cs, rfl⟩
  | string | foreign | absent => exact absurd h Bool.false_ne_true

/-- A string is no element. -/
theorem StringSort.category_ne_element (sort : StringSort) (parent : Option String) :
    sort.category parent ≠ .element := by
  cases sort <;> simp only [category] <;> repeat' split
  all_goals exact Category.noConfusion

end Markup

/-! ## What a converter builds -/

namespace Converter

variable {cv : Converter}

/-- The class that builds the elements of a name, if one is registered for it. -/
def class? (cv : Converter) (name : String) : Option SemanticClass :=
  match cv.registry.lookup? (Text.lower name) with
  | some d =>
    match d.constructor with
    | .ofClass c => some c
    | .ofFactory _ => none
  | none => none

/-- The type of the output of elements of a name. -/
def typeOf (cv : Converter) (name : String) : ElementType :=
  match cv.class? name with
  | some c => .semantic c
  | none => .standard (Shape.ofInfo (Catalog.resolve (Text.lower name)))

/-- The attributes that the output of elements of a name starts with. -/
def presetsOf (cv : Converter) (name : String) : List (String × String) :=
  match cv.class? name with
  | some c => c.attributes
  | none => []

/-- The attributes with those of the input set in turn, as texts. -/
def copied (onto : List (String × String)) (attributes : List (String × Value)) :
    List (String × String) :=
  attributes.foldl (fun as a => Entries.put a.1 a.2.outputText as) onto

/-- The output of a string in an element named `parent`, or in none. -/
def stringOutput (parent : Option String) (sort : Markup.StringSort) (data : String) :
    Option Tree :=
  match sort.category parent with
  | .text => if (Text.strip data).isEmpty then none else some (.text (Text.strip data))
  | .comment => some (.comment data)
  | .rawData => if data.isEmpty then none else some (.rawData data)
  | .element | .unknown => none

mutual

/-- The output of a node in an element named `parent`, or in none. -/
def output (cv : Converter) (parent : Option String) : Markup.Node → Option Tree
  | .element name attributes cs =>
    some (.element (cv.typeOf name) (Text.lower name) (copied (cv.presetsOf name) attributes)
      (if (cv.typeOf name).ownsChildren then cv.outputs name cs else []))
  | .string sort data => stringOutput parent sort data
  | .foreign _ => none
  | .absent => none

/-- The outputs of the nodes in an element named `parent`, in order. -/
def outputs (cv : Converter) (parent : String) : List Markup.Node → List Tree
  | [] => []
  | n :: ns => (cv.output (some parent) n).toList ++ cv.outputs parent ns

end

mutual

/-- The names of the types of the nodes without a category that a conversion comes to, in order. -/
def skipped (cv : Converter) (parent : Option String) : Markup.Node → List String
  | .element name _ cs =>
    if (cv.typeOf name).ownsChildren then cv.skippedBelow name cs else []
  | .string sort _ => if sort.category parent = .unknown then [sort.typeName] else []
  | .foreign typeName => [typeName]
  | .absent => []

/-- The same for the nodes in an element named `parent`. -/
def skippedBelow (cv : Converter) (parent : String) : List Markup.Node → List String
  | [] => []
  | n :: ns => cv.skipped (some parent) n ++ cv.skippedBelow parent ns

end

end Converter

/-- The session after these nodes have been left out by a converter. -/
def Session.note (session : Session) (cv : Converter) (names : List String) : Session :=
  if cv.reportUnknown then { session with unknown := session.unknown ++ names } else session

@[simp] theorem Session.note_nil (session : Session) (cv : Converter) :
    session.note cv [] = session := by
  simp [note]

theorem Session.note_append (session : Session) (cv : Converter) (names more : List String) :
    session.note cv (names ++ more) = (session.note cv names).note cv more := by
  unfold note
  split <;> simp

/-! ## Running conversions -/

namespace Conversion

variable {α β : Type}

theorem exec_pure (a : α) (session : Session) :
    (pure a : Conversion α).exec session = (.ok a, session) := rfl

theorem exec_bind_ok {c : Conversion α} {a : α} {session session' : Session}
    (h : c.exec session = (.ok a, session')) (k : α → Conversion β) :
    (c >>= k).exec session = (k a).exec session' := by
  change (ExceptT.bindCont k (c.exec session).1).run (c.exec session).2 = _
  rw [h]
  rfl

end Conversion

namespace Converter

variable {cv : Converter}

theorem report_exec (typeName : String) (session : Session) :
    (cv.report typeName).exec session = (.ok (), session.note cv [typeName]) := by
  unfold report Session.note
  split <;> rfl

/-- The call to a class that declares a tag gives a new instance and is not recorded. -/
theorem call_ofClass {c : SemanticClass} (h : c.tag.isEmpty = false) :
    call (.ofClass c) =
      pure (.node (.element (.semantic c) (Text.lower c.tag) c.attributes [])) := by
  have hi : c.instantiate = .ok (.element (.semantic c) (Text.lower c.tag) c.attributes []) := by
    simp [SemanticClass.instantiate, h]
  unfold call Constructor.call
  simp only [hi]
  rfl

/-- With a registry of classes, a name has a class just when there is a definition for it. -/
theorem class?_cases (hr : cv.registry.OfClasses) (name : String) :
    (∃ d c, cv.registry.lookup? (Text.lower name) = some d ∧ d.Describes c ∧
        Text.lower name = Text.lower c.tag ∧ cv.class? name = some c) ∨
      cv.registry.lookup? (Text.lower name) = none ∧ cv.class? name = none := by
  unfold class?
  cases hd : cv.registry.lookup? (Text.lower name) with
  | none => exact .inr ⟨rfl, rfl⟩
  | some d =>
    obtain ⟨-, c, hc, htag⟩ := hr.lookup?_spec hd
    exact .inl ⟨d, c, rfl, hc, by rwa [Text.lower_lower] at htag, by simp only [hc.constructor]⟩

theorem build_lower (hr : cv.registry.OfClasses) (name : String) :
    cv.build (Text.lower name) =
      pure (.node (.element (cv.typeOf name) (Text.lower name) (cv.presetsOf name) [])) := by
  unfold build typeOf presetsOf
  rcases class?_cases hr name with ⟨d, c, hd, hc, htag, hclass⟩ | ⟨hd, hclass⟩
  · simp only [hd, hc.constructor, call_ofClass hc.declared, hclass]
    rw [htag]
  · simp only [hd, hclass, Tree.standard, Text.lower_lower]

/-! ## Names in small letters -/

theorem classify?_lower (name : String) :
    Catalog.classify? (Text.lower name) = Catalog.classify? name := by
  simp only [Catalog.classify?, Text.lower_isEmpty, Text.lower_lower]

theorem resolve_lower (name : String) :
    Catalog.resolve (Text.lower name) = Catalog.resolve name := by
  simp only [Catalog.resolve, classify?_lower]

theorem isRawTextElement_lower (name : String) :
    Markup.isRawTextElement (Text.lower name) = Markup.isRawTextElement name := by
  simp only [Markup.isRawTextElement, classify?_lower]

theorem class?_lower (name : String) : cv.class? (Text.lower name) = cv.class? name := by
  simp only [class?, Text.lower_lower]

theorem typeOf_lower (name : String) : cv.typeOf (Text.lower name) = cv.typeOf name := by
  simp only [typeOf, class?_lower, Text.lower_lower]

theorem presetsOf_lower (name : String) : cv.presetsOf (Text.lower name) = cv.presetsOf name := by
  simp only [presetsOf, class?_lower]

/-! ## Attributes -/

theorem nodup_names_presetsOf (cv : Converter) (name : String) :
    (Entries.names (cv.presetsOf name)).Nodup := by
  unfold presetsOf
  split
  · exact Entries.nodup_names_ofList _
  · exact List.nodup_nil

theorem copied_eq_putAll (onto : List (String × String)) (attributes : List (String × Value)) :
    copied onto attributes =
      Entries.putAll onto (attributes.map fun a => (a.1, a.2.outputText)) := by
  rw [Entries.putAll, List.foldl_map, copied]

theorem textItems_eq (items : List Value) :
    textItems items = if items.all (fun v => v.text?.isSome) = true
      then .ok (items.filterMap Value.text?) else .error .notText := by
  induction items with
  | nil => rfl
  | cons v items ih =>
    cases v with
    | text s =>
      rw [textItems, ih, List.all_cons, Value.text?, Option.isSome_some, Bool.true_and]
      split <;> rfl
    | _ => rfl

theorem attributeText_eq (v : Value) :
    attributeText v = if v.hasText = true then .ok v.outputText else .error .notText := by
  cases v with
  | list items =>
    rw [attributeText, textItems_eq, Value.hasText]
    split <;> rfl
  | _ => rfl

/-- Attributes can be copied if all of them have a text. -/
theorem copyAttributes_eq (onto : List (String × String)) (attributes : List (String × Value)) :
    copyAttributes onto attributes = if attributes.all (fun a => a.2.hasText) = true
      then .ok (copied onto attributes) else .error .notText := by
  induction attributes generalizing onto with
  | nil => rfl
  | cons a attributes ih =>
    rw [copyAttributes, attributeText_eq, List.all_cons]
    cases a.2.hasText with
    | false => rfl
    | true =>
      rw [if_pos rfl]
      exact ih _

theorem attributeText_of_isPlain {v : Value} (h : v.isPlain = true) :
    attributeText v = .ok v.outputText := by
  rw [attributeText_eq, if_pos (Value.hasText_of_isPlain h)]

/-- Plain attributes can always be copied. -/
theorem copyAttributes_of_isPlain {attributes : List (String × Value)}
    (h : attributes.all (fun a => a.2.isPlain) = true) (onto : List (String × String)) :
    copyAttributes onto attributes = .ok (copied onto attributes) := by
  have htexts : attributes.all (fun a => a.2.hasText) = true :=
    List.all_eq_true.mpr fun a ha => Value.hasText_of_isPlain (List.all_eq_true.mp h a ha)
  rw [copyAttributes_eq, if_pos htexts]

/-! ## Nodes -/

theorem string_exec (cv : Converter) (parent : Option String) (sort : Markup.StringSort)
    (data : String) (session : Session) :
    (cv.string parent sort data).exec session =
      (.ok (stringOutput parent sort data),
        session.note cv (if sort.category parent = .unknown then [sort.typeName] else [])) := by
  have hne : sort.category parent ≠ .element := Markup.StringSort.category_ne_element sort parent
  unfold string stringOutput
  cases hc : sort.category parent with
  | element => exact absurd hc hne
  | unknown =>
    rw [if_pos rfl]
    exact Conversion.exec_bind_ok (report_exec ..) _
  | _ => simp only [reduceCtorEq, if_false, Session.note_nil, Conversion.exec_pure]

mutual

/-- The converter gives the output of a node and reports the nodes that it skips, by induction on
the node together with the nodes in it. -/
theorem node_exec (hr : cv.registry.OfClasses) (parent : Option String) :
    (n : Markup.Node) → n.isPlain = true → (session : Session) →
      (cv.node parent n).exec session =
        (.ok (cv.output parent n), session.note cv (cv.skipped parent n))
  | .element name attributes cs, hn, session => by
    rw [Markup.Node.isPlain, Bool.and_eq_true] at hn
    rw [node, build_lower hr, pure_bind]
    simp only [copyAttributes_of_isPlain hn.1, output, skipped]
    cases (cv.typeOf name).ownsChildren
    · simp only [Bool.false_eq_true, if_false, Session.note_nil, Conversion.exec_pure]
    · simp only [if_true]
      rw [Conversion.exec_bind_ok (nodes_exec hr name cs hn.2 session), Conversion.exec_pure,
        List.nil_append]
  | .string sort data, _, session => by
    rw [node, string_exec, output, skipped]
  | .foreign typeName, _, session => by
    rw [node, Conversion.exec_bind_ok (report_exec ..), Conversion.exec_pure, output, skipped]
  | .absent, _, session => by
    rw [node, Conversion.exec_pure, output, skipped, Session.note_nil]

theorem nodes_exec (hr : cv.registry.OfClasses) (parent : String) :
    (ns : List Markup.Node) → Markup.Node.arePlain ns = true → (session : Session) →
      (cv.nodes parent ns).exec session =
        (.ok (cv.outputs parent ns), session.note cv (cv.skippedBelow parent ns))
  | [], _, session => by
    rw [nodes, Conversion.exec_pure, outputs, skippedBelow, Session.note_nil]
  | n :: ns, hns, session => by
    rw [Markup.Node.arePlain, Bool.and_eq_true] at hns
    rw [nodes, Conversion.exec_bind_ok (node_exec hr (some parent) n hns.1 session),
      Conversion.exec_bind_ok (nodes_exec hr parent ns hns.2 _), Conversion.exec_pure, outputs,
      skippedBelow, Session.note_append]

end

/-- An element gives the same output on its own as in any place. -/
theorem element_exec (hr : cv.registry.OfClasses) {n : Markup.Node} (he : n.isElement = true)
    (hn : n.isPlain = true) (session : Session) :
    (cv.element n).exec session =
      (.ok (cv.output none n), session.note cv (cv.skipped none n)) := by
  obtain ⟨name, attributes, cs, rfl⟩ := Markup.Node.exists_of_isElement he
  exact node_exec hr none _ hn session

/-- Several elements give their outputs in turn, and what is skipped in each is reported in turn. -/
theorem elements_exec (hr : cv.registry.OfClasses) {ns : List Markup.Node}
    (hns : ∀ n ∈ ns, n.isElement = true ∧ n.isPlain = true) (session : Session) :
    (cv.elements ns).exec session =
      (.ok (ns.filterMap (cv.output none)), session.note cv (ns.flatMap (cv.skipped none))) := by
  induction ns generalizing session with
  | nil =>
    rw [elements, Conversion.exec_pure, List.flatMap_nil, Session.note_nil, List.filterMap_nil]
  | cons n ns ih =>
    obtain ⟨⟨he, hn⟩, hns⟩ := List.forall_mem_cons.mp hns
    rw [elements, Conversion.exec_bind_ok (element_exec hr he hn session),
      Conversion.exec_bind_ok (ih hns _), Conversion.exec_pure, List.flatMap_cons,
      Session.note_append, List.filterMap_cons]
    cases cv.output none n <;> rfl

end Converter

end TypedMarkup
