import TypedMarkup.Proofs.Conversion.Agreement
import TypedMarkup.Proofs.Text.Join

/-!
# The attributes of an output element

An output element starts with what its constructor sets, and the attributes of the input are set on
it in turn. `attributeMap` says what this comes to, without the turns: the names of the constructor
in their order, each with the value of the input if it has this name, and then what else the input
has. `copied_constructed` proves it of the loop, and `element_attributeMap` of the conversion of an
element that is built by a class or by the catalog, whatever else is registered.
-/

namespace TypedMarkup.Converter

variable {cv : Converter} {name : String} {type : ElementType} {presets : List (String × Value)}

/-! ## What the attributes come to -/

/-- The text that a constructor leaves under a name: that of the last value that it sets. -/
def presetText (presets : List (String × Value)) (n : String) : String :=
  match (presets.filter (·.1 == n)).getLast? with
  | some preset => preset.2.attributeText
  | none => ""

/-- The attributes of an output element, from what its constructor sets in turn and from those of
the input. First come the names that the constructor sets, each where it is first set and with the
value of the input under exactly this name, or else with the one that the constructor left there;
then the other attributes of the input, in order. -/
def attributeMap (presets attributes : List (String × Value)) : List (String × String) :=
  ((presets.map Prod.fst).eraseDups.map fun n =>
    (n, match Entries.find? n attributes with
      | some value => value.outputText
      | none => presetText presets n)) ++
  (attributes.filter fun a => a.1 ∉ presets.map Prod.fst).map fun a => (a.1, a.2.outputText)

/-- The attributes that a constructor has set in turn. -/
def constructed (presets : List (String × Value)) : List (String × String) :=
  Entries.ofList (presets.map fun p => (p.1, p.2.attributeText))

theorem names_constructed (presets : List (String × Value)) :
    Entries.names (constructed presets) = (presets.map Prod.fst).eraseDups := by
  rw [constructed, Entries.names_ofList, List.map_map]
  rfl

theorem presetText_of_mem_constructed {p : String × String} (h : p ∈ constructed presets) :
    presetText presets p.1 = p.2 := by
  have hread := Entries.find?_of_mem (Entries.nodup_names_ofList _) h
  rw [Entries.find?_ofList, List.filter_map, List.getLast?_map, Option.map_map,
    Option.map_eq_some_iff] at hread
  obtain ⟨preset, hlast, htext⟩ := hread
  have hlast' : (presets.filter (·.1 == p.1)).getLast? = some preset := hlast
  rw [presetText, hlast']
  exact htext

/-- Attributes with distinct names that are set in turn on what a constructor has set. -/
theorem copied_constructed (presets : List (String × Value)) {attributes : List (String × Value)}
    (h : (Entries.names attributes).Nodup) :
    copied (constructed presets) attributes = attributeMap presets attributes := by
  have htexts : (Entries.names (attributes.map fun a => (a.1, a.2.outputText))).Nodup := by
    rwa [Entries.names, List.map_map]
  have hconstructed : (Entries.names (constructed presets)).Nodup := Entries.nodup_names_ofList _
  rw [copied_eq_putAll, Entries.putAll_eq hconstructed htexts, attributeMap, ← names_constructed,
    Entries.names, List.map_map]
  refine congrArg₂ _ (List.map_congr_left fun p hp => ?_) ?_
  · -- a name of the constructor has the text that is put under it, or its own
    rw [Entries.find?_map, Function.comp, presetText_of_mem_constructed hp]
    cases Entries.find? p.1 attributes <;> rfl
  · rw [List.filter_map]
    refine congrArg _ (List.filter_congr fun a _ => ?_)
    have hname : a.1 ∈ Entries.names (constructed presets) ↔ a.1 ∈ presets.map Prod.fst := by
      rw [names_constructed, List.mem_eraseDups]
    exact decide_eq_decide.mpr (not_congr hname)

theorem outputText_texts (texts : List String) :
    (Value.list (texts.map .text)).outputText = " ".intercalate texts := by
  rw [Value.outputText, List.filterMap_map, ← Text.join_eq_intercalate]
  exact congrArg _ List.filterMap_some

/-! ## How elements are built -/

/-- Elements of a name are built with this type, by a constructor that sets these attributes: they
have no definition, and the catalog builds them without attributes, or a class that declares a tag
is registered for them. -/
inductive BuiltAs (cv : Converter) (name : String) : ElementType → List (String × Value) → Prop where
  | standard (missing : cv.registry.lookup? name = none) :
      BuiltAs cv name (.standard (Shape.ofInfo (Catalog.resolve name))) []
  | registered {d : Definition} {c : SemanticClass} (found : cv.registry.lookup? name = some d)
      (byClass : d.constructor = .ofClass c) (declared : c.tag.isEmpty = false) :
      BuiltAs cv name (.semantic c) c.presets

theorem BuiltAs.build_lower (h : cv.BuiltAs name type presets) :
    ∃ tag, cv.build (Text.lower name) =
      pure (.node (.element type tag (constructed presets) [])) := by
  unfold build
  rw [Registry.lookup?_lower]
  cases h with
  | standard missing =>
    rw [missing]
    exact ⟨_, by rw [resolve_lower]; rfl⟩
  | registered found byClass declared =>
    rw [found]
    exact ⟨_, by simp only [byClass, call_ofClass declared]; rfl⟩

/-- What an element is converted to, when its own attributes are plain and have distinct names. -/
theorem BuiltAs.node_exec (built : cv.BuiltAs name type presets)
    {attributes : List (String × Value)} (distinct : (Entries.names attributes).Nodup)
    (plain : attributes.all (fun a => a.2.isPlain) = true) (parent : Option String)
    (cs : List Markup.Node) :
    ∃ tag, ∀ session, ((cv.node parent (.element name attributes cs)).exec session).1 =
      (if type.ownsChildren then ((cv.nodes name cs).exec session).1 else .ok []).map fun below =>
        some (.element type tag (attributeMap presets attributes) below) := by
  obtain ⟨tag, hbuild⟩ := built.build_lower
  refine ⟨tag, fun session => ?_⟩
  rw [node, hbuild, pure_bind]
  simp only [copyAttributes_of_isPlain plain, copied_constructed presets distinct]
  cases type.ownsChildren with
  | false => rfl
  | true =>
    simp only [if_true, List.nil_append, ← map_eq_pure_bind]
    rw [Conversion.exec_map]

/-! ## Main statement -/

/-- The attributes of what an element is converted to, when its own are plain and have distinct
names: those of the constructor and of the input, as `attributeMap` brings them together. If the
nodes in it can be converted, as they can with classes alone and plain attributes, so can the
element. A text is its own text in the output, null is the empty one, and a list of texts is joined
with single spaces. -/
theorem node_attributeMap (built : cv.BuiltAs name type presets)
    {attributes : List (String × Value)} (distinct : (Entries.names attributes).Nodup)
    (plain : attributes.all (fun a => a.2.isPlain) = true) (parent : Option String)
    (cs : List Markup.Node) :
    (∃ tag, ∀ session, ((cv.node parent (.element name attributes cs)).exec session).1 =
      (if type.ownsChildren then ((cv.nodes name cs).exec session).1 else .ok []).map fun below =>
        some (.element type tag (attributeMap presets attributes) below)) ∧
    (cv.registry.OfClasses → Markup.Node.arePlain cs = true →
      ∃ tag below, ∀ session, ((cv.node parent (.element name attributes cs)).exec session).1 =
        .ok (some (.element type tag (attributeMap presets attributes) below))) ∧
    (∀ s : String, (Value.text s).outputText = s) ∧ Value.null.outputText = "" ∧
    (∀ texts : List String,
      (Value.list (texts.map .text)).outputText = " ".intercalate texts) := by
  have hnode := built.node_exec distinct plain parent cs
  refine ⟨hnode, fun hr hcs => ?_, fun _ => rfl, rfl, outputText_texts⟩
  obtain ⟨tag, h⟩ := hnode
  refine ⟨tag, if type.ownsChildren then cv.outputs name cs else [], fun session => ?_⟩
  rw [h, nodes_exec hr name cs hcs]
  cases type.ownsChildren <;> rfl

/-- A class that sets an attribute in capitals, and another one twice. -/
def callout : SemanticClass :=
  ⟨"Callout", [], .container, "x-callout", .block,
    [("CLASS", .text "callout"), ("role", .text "mark"), ("role", .text "note"), ("hidden", .null)]⟩

/-- A converter that knows this class. -/
def calloutConverter : Converter :=
  ⟨(Registry.add ⟨.ofClass callout, callout, "x-callout", false⟩ .empty).1, true⟩

/-- Attributes for an element of this class. -/
def calloutAttributes : List (String × Value) :=
  [("id", .null), ("hidden", .bool true), ("class", .list [.text "wide", .text "open"])]

theorem builtAs_callout :
    calloutConverter.BuiltAs "X-Callout" (.semantic callout) callout.presets := by
  have hlower : Text.lower "X-Callout" = "x-callout" := by decide +kernel
  have hfound : calloutConverter.registry.lookup? "X-Callout" =
      some ⟨.ofClass callout, callout, "x-callout", false⟩ := by
    rw [Registry.lookup?, hlower]
    rfl
  exact .registered hfound rfl rfl

theorem node_attributeMap_callout :
    calloutConverter.BuiltAs "X-Callout" (.semantic callout) callout.presets ∧
      (Entries.names calloutAttributes).Nodup ∧
      calloutAttributes.all (fun a => a.2.isPlain) = true ∧
      ∃ tag, ((calloutConverter.node none
          (.element "X-Callout" calloutAttributes [.foreign "Odd"])).exec .initial).1 =
        .ok (some (.element (.semantic callout) tag [("CLASS", "callout"), ("role", "note"),
          ("hidden", "True"), ("id", ""), ("class", "wide open")] [])) := by
  have hdistinct : (Entries.names calloutAttributes).Nodup := by decide
  have hplain : calloutAttributes.all (fun a => a.2.isPlain) = true := rfl
  obtain ⟨⟨tag, htree⟩, -⟩ :=
    node_attributeMap builtAs_callout hdistinct hplain none [.foreign "Odd"]
  exact ⟨builtAs_callout, hdistinct, hplain, tag, (htree .initial).trans (by rfl)⟩

end TypedMarkup.Converter
