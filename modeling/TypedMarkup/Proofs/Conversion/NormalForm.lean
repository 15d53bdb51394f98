import TypedMarkup.Proofs.Conversion.Correspondence

/-!
# Outputs are normal forms

An output tree is markup again: `Tree.asInput` makes an element of each element, and of each leaf a
string of the sort that is read as such. Converting it gives the same tree.

`IsNormal` says which trees a converter has nothing to change in: tags in small letters, the type
and the first attributes that the converter gives to the tag, texts that are stripped and never in
raw text. Every output is normal (`isNormal_of_output`), a normal tree converts to itself
(`output_asInput`), and `node_asInput` puts the two together.
-/

namespace TypedMarkup

open Markup (isRawTextElement)

/-! ## Trees as input -/

namespace Tree

mutual

/-- A tree as parsed markup. -/
def asInput : Tree → Markup.Node
  | element _ tag attributes cs =>
    .element tag (attributes.map fun a => (a.1, .text a.2)) (asInputs cs)
  | text data => .string .plain data
  | comment data => .string .comment data
  | rawData data => .string .cdata data

/-- Several trees as parsed markup. -/
def asInputs : List Tree → List Markup.Node
  | [] => []
  | t :: ts => asInput t :: asInputs ts

end

mutual

theorem isPlain_asInput : (t : Tree) → t.asInput.isPlain = true
  | element _ _ _ cs => by
    rw [asInput, Markup.Node.isPlain, arePlain_asInputs cs]
    simp [Value.isPlain]
  | text _ => rfl
  | comment _ => rfl
  | rawData _ => rfl

theorem arePlain_asInputs : (ts : List Tree) → Markup.Node.arePlain (asInputs ts) = true
  | [] => rfl
  | t :: ts => by
    rw [asInputs, Markup.Node.arePlain, isPlain_asInput t, arePlain_asInputs ts]
    rfl

end

end Tree

namespace Converter

variable {cv : Converter}

/-- Whether a plain string in an element named `parent`, or in none, is raw text. -/
def inRawText (parent : Option String) : Bool :=
  parent.any isRawTextElement

theorem category_plain (parent : Option String) :
    Markup.StringSort.category parent .plain = if inRawText parent then .rawData else .text := by
  cases parent <;> rfl

/-- Only where strings are no raw text is there a text. -/
theorem inRawText_of_category {parent : Option String} {sort : Markup.StringSort}
    (h : sort.category parent = .text) : inRawText parent = false := by
  cases parent with
  | none => rfl
  | some name =>
    rw [inRawText, Option.any_some, Bool.eq_false_iff]
    intro hraw
    cases sort <;> simp [Markup.StringSort.category, hraw] at h

/-! ## Attributes -/

/-- Copying attributes onto the first of them gives them back. -/
theorem copied_texts {onto attributes : List (String × String)}
    (hnodup : (Entries.names attributes).Nodup)
    (hfirst : Entries.names onto <+: Entries.names attributes) :
    copied onto (attributes.map fun a => (a.1, .text a.2)) = attributes := by
  rw [copied_eq_putAll, List.map_map]
  have htexts : attributes.map ((fun a : String × Value => (a.1, a.2.outputText)) ∘
      fun a => (a.1, Value.text a.2)) = attributes := List.map_id' attributes
  rw [htexts]
  exact Entries.putAll_of_names_prefix hnodup hfirst

/-! ## Normal trees -/

mutual

/-- The converter has nothing to change in a tree; `raw` says that it stands in raw text. -/
def IsNormal (cv : Converter) (raw : Bool) : Tree → Prop
  | .element type tag attributes cs =>
    Text.lower tag = tag ∧ type = cv.typeOf tag ∧ (Entries.names attributes).Nodup ∧
      Entries.names (cv.presetsOf tag) <+: Entries.names attributes ∧
      (type.ownsChildren = false → cs = []) ∧ AreNormal cv (isRawTextElement tag) cs
  | .text data => raw = false ∧ Text.strip data = data ∧ data ≠ ""
  | .comment _ => True
  | .rawData data => data ≠ ""

/-- The converter has nothing to change in several trees. -/
def AreNormal (cv : Converter) (raw : Bool) : List Tree → Prop
  | [] => True
  | t :: ts => IsNormal cv raw t ∧ AreNormal cv raw ts

end

/-- A tree that is normal in raw text is normal anywhere. -/
theorem IsNormal.outside {raw : Bool} {t : Tree} (h : cv.IsNormal raw t) : cv.IsNormal false t := by
  cases t with
  | text data => exact ⟨rfl, h.2⟩
  | element | comment | rawData => exact h

theorem areNormal_append {raw : Bool} {ts us : List Tree} (ht : cv.AreNormal raw ts)
    (hu : cv.AreNormal raw us) : cv.AreNormal raw (ts ++ us) := by
  induction ts with
  | nil => exact hu
  | cons t ts ih => exact ⟨ht.1, ih ht.2⟩

theorem isNormal_of_stringOutput {parent : Option String} {sort : Markup.StringSort}
    {data : String} {t : Tree} (h : stringOutput parent sort data = some t) :
    cv.IsNormal (inRawText parent) t := by
  unfold stringOutput at h
  split at h
  · rename_i hc
    split at h
    · exact absurd h (by simp)
    · rename_i hne
      rw [← Option.some.inj h]
      exact ⟨inRawText_of_category hc, Text.strip_strip data, by simpa using hne⟩
  · rw [← Option.some.inj h]; trivial
  · split at h
    · exact absurd h (by simp)
    · rename_i hne
      rw [← Option.some.inj h]
      simpa [IsNormal] using hne
  all_goals exact absurd h (by simp)

mutual

/-- Every output is normal, by induction on the node together with the nodes in it. -/
theorem isNormal_of_output (parent : Option String) : (n : Markup.Node) → (t : Tree) →
    cv.output parent n = some t → cv.IsNormal (inRawText parent) t
  | .element name attributes cs, t, h => by
    rw [output] at h
    rw [← Option.some.inj h, IsNormal, typeOf_lower, presetsOf_lower, isRawTextElement_lower,
      copied_eq_putAll]
    refine ⟨Text.lower_lower name, rfl,
      Entries.nodup_names_putAll (cv.nodup_names_presetsOf name) _,
      Entries.names_prefix_putAll _ _, fun howns => ?_, ?_⟩
    · rw [howns]; rfl
    · split
      · exact areNormal_outputs name cs
      · trivial
  | .string sort data, t, h => by
    rw [output] at h
    exact isNormal_of_stringOutput h
  | .foreign _, t, h => by rw [output] at h; exact absurd h (by simp)
  | .absent, t, h => by rw [output] at h; exact absurd h (by simp)

theorem areNormal_outputs (name : String) : (ns : List Markup.Node) →
    cv.AreNormal (isRawTextElement name) (cv.outputs name ns)
  | [] => by rw [outputs]; trivial
  | n :: ns => by
    rw [outputs]
    refine areNormal_append ?_ (areNormal_outputs name ns)
    cases h : cv.output (some name) n with
    | none => trivial
    | some t => exact ⟨isNormal_of_output (some name) n t h, trivial⟩

end

mutual

/-- A normal tree converts to itself. -/
theorem output_asInput (parent : Option String) : (t : Tree) → cv.IsNormal (inRawText parent) t →
    cv.output parent t.asInput = some t
  | .element type tag attributes cs, h => by
    obtain ⟨htag, htype, hnodup, hfirst, hvoid, hcs⟩ := h
    rw [Tree.asInput, output, htag, ← htype, copied_texts hnodup hfirst,
      outputs_asInputs tag cs hcs]
    cases howns : type.ownsChildren with
    | true => rfl
    | false => rw [hvoid howns]; rfl
  | .text data, h => by
    obtain ⟨hraw, hstrip, hne⟩ := h
    rw [Tree.asInput, output, stringOutput, category_plain, hraw]
    simp [hstrip, hne]
  | .comment data, _ => rfl
  | .rawData data, h => by
    rw [IsNormal] at h
    rw [Tree.asInput, output, stringOutput]
    simp [Markup.StringSort.category, h]

theorem outputs_asInputs (name : String) : (ts : List Tree) →
    cv.AreNormal (isRawTextElement name) ts → cv.outputs name (Tree.asInputs ts) = ts
  | [], _ => by rw [Tree.asInputs, outputs]
  | t :: ts, h => by
    rw [Tree.asInputs, outputs, output_asInput (some name) t h.1, outputs_asInputs name ts h.2]
    rfl

end

mutual

/-- Nothing in an output tree is without a category. -/
theorem skipped_asInput (parent : Option String) : (t : Tree) → cv.skipped parent t.asInput = []
  | .element type tag attributes cs => by
    rw [Tree.asInput, skipped, skippedBelow_asInputs tag cs, ite_self]
  | .text data => by
    rw [Tree.asInput, skipped, category_plain]
    cases inRawText parent <;> rfl
  | .comment _ => rfl
  | .rawData _ => rfl

theorem skippedBelow_asInputs (name : String) : (ts : List Tree) →
    cv.skippedBelow name (Tree.asInputs ts) = []
  | [] => by rw [Tree.asInputs, skippedBelow]
  | t :: ts => by
    rw [Tree.asInputs, skippedBelow, skipped_asInput (some name) t, skippedBelow_asInputs name ts]
    rfl

end

/-! ## Main statement -/

/-- With a registry of element classes and plain attribute values, an output that is taken as markup
and converted again, on its own, gives the same tree, and nothing is left out. -/
theorem node_asInput (hr : cv.registry.OfClasses) {n : Markup.Node} (hn : n.isPlain = true)
    {parent : Option String} {session left : Session} {t : Tree}
    (h : (cv.node parent n).exec session = (.ok (some t), left)) (again : Session) :
    (cv.node none t.asInput).exec again = (.ok (some t), again) := by
  rw [node_exec hr parent n hn session] at h
  have hout : cv.output parent n = some t := Except.ok.inj (Prod.mk.inj h).1
  have hnormal : cv.IsNormal (inRawText none) t := (isNormal_of_output parent n t hout).outside
  rw [node_exec hr none _ t.isPlain_asInput again, output_asInput none t hnormal,
    skipped_asInput, Session.note_nil]

/-- A class of containers with attributes of its own. -/
def chip : SemanticClass :=
  ⟨"Chip", [], .container, "X-Chip", .inline, [("role", .text "note"), ("class", .text "chip")]⟩

/-- A converter that knows this class. -/
def chipConverter : Converter :=
  ⟨(Registry.add ⟨.ofClass chip, chip, "x-chip", false⟩ .empty).1, true⟩

theorem ofClasses_chipConverter : chipConverter.registry.OfClasses :=
  .add .empty (Definition.make_of_declared rfl (by decide +kernel) none [])

/-- An element of this class, in capitals, with a list for a first attribute of the class, and with
a blank, a text, raw text and a comment in it. -/
def chipPage : Markup.Node :=
  .element "X-CHIP" [("id", .int 7), ("class", .list [.text "a", .text "b"])]
    [.string .plain " ", .string .plain " kept ",
      .element "STYLE" [] [.string .plain " b \x7b\x7d "], .string .comment " c "]

/-- What this element is converted to. -/
def chipTree : Tree :=
  .element (.semantic chip) "x-chip" [("role", "note"), ("class", "a b"), ("id", "7")]
    [.text "kept", .element (.standard .blockContainer) "style" [] [.rawData " b \x7b\x7d "],
      .comment " c "]

theorem output_chipPage : chipConverter.output none chipPage = some chipTree := by
  have hchip : Text.lower "X-CHIP" = "x-chip" := by decide +kernel
  have hstyle : Text.lower "STYLE" = "style" := by decide +kernel
  have hshape : Shape.ofInfo (Catalog.resolve "style") = .blockContainer := by decide +kernel
  have hraw : isRawTextElement "STYLE" = true := by decide +kernel
  have hnotraw : isRawTextElement "X-CHIP" = false := by decide +kernel
  have hblank : Text.strip " " = "" := by decide +kernel
  have hkept : Text.strip " kept " = "kept" := by decide +kernel
  have hclass : chipConverter.class? "X-CHIP" = some chip := by rw [class?, hchip]; rfl
  have hnone : chipConverter.class? "STYLE" = none := by rw [class?, hstyle]; rfl
  have hcopied : copied chip.attributes
      [("id", .int 7), ("class", .list [.text "a", .text "b"])] =
        [("role", "note"), ("class", "a b"), ("id", "7")] := rfl
  have hcontainer : (ElementType.semantic chip).ownsChildren = true := rfl
  simp [chipPage, chipTree, output, outputs, stringOutput, Markup.StringSort.category, typeOf,
    presetsOf, ElementType.ownsChildren, Shape.ownsChildren, *]
  rfl

theorem node_asInput_chipPage :
    chipConverter.registry.OfClasses ∧ chipPage.isPlain = true ∧
      (chipConverter.node none chipPage).exec .initial = (.ok (some chipTree), .initial) ∧
      ∀ again, (chipConverter.node none chipTree.asInput).exec again =
        (.ok (some chipTree), again) := by
  have hplain : chipPage.isPlain = true := rfl
  have hrun : (chipConverter.node none chipPage).exec .initial =
      (.ok (some chipTree), .initial) := by
    rw [node_exec ofClasses_chipConverter none chipPage hplain, output_chipPage]
    rfl
  exact ⟨ofClasses_chipConverter, hplain, hrun,
    node_asInput ofClasses_chipConverter hplain hrun⟩

end Converter

end TypedMarkup
