import TypedMarkup.Proofs.Conversion.LiveElement
import TypedMarkup.Proofs.Conversion.AttributeMap
import TypedMarkup.Proofs.Text.Words

/-!
# The class names of a live element

A parser may give the class attribute of an element as a list of texts. A conversion joins them with
single spaces, and the new element splits what it has at blanks to tell its class names. These are
the words of the texts, whatever blanks are in them: `get?_filled` says what the new element reads,
`Text.words_join` what its words are, and `classList_liveNode` puts the two together.
-/

namespace TypedMarkup.Converter

open LiveConversion

variable {cv : Converter} {attributes : List (String × Value)}

/-- Of attributes that are set in turn, with distinct names, each reads its own text. -/
theorem get?_filled {n : String} {v : Value} (distinct : (Entries.names attributes).Nodup)
    (h : Entries.find? n attributes = some v) (owner : NodeId) (as : Attributes) :
    (filled owner as attributes).get? n = some v.outputText := by
  have htexts : (Entries.names (attributes.map fun a => (a.1, a.2.outputText))).Nodup := by
    rwa [Entries.names, List.map_map]
  refine Attributes.get?_of_find?_pairs ?_
  rw [pairs_filled, copied_eq_putAll, Entries.find?_putAll _ htexts, Entries.find?_map, h]
  rfl

/-- The class names where the class attribute is a list of texts. -/
theorem classList_filled {texts : List String} (distinct : (Entries.names attributes).Nodup)
    (given : Entries.find? "class" attributes = some (.list (texts.map .text))) (owner : NodeId)
    (as : Attributes) :
    (filled owner as attributes).classList = (texts.flatMap Text.words).eraseDups := by
  rw [Attributes.classList, get?_filled distinct given, Option.getD_some, outputText_texts,
    ← Text.join_eq_intercalate, Text.words_join]

/-- Where the class attribute of an element is a list of texts, its live conversion, if it succeeds,
leaves an element whose class names are the words of the texts: the longest stretches in one of them
that are free of blanks, and nothing else. This is so with any registry, whatever its constructors
give, and whatever blanks are in the texts; with classes alone and plain attributes the conversion
succeeds. -/
theorem classList_liveNode {name : String} {texts : List String}
    (distinct : (Entries.names attributes).Nodup)
    (given : Entries.find? "class" attributes = some (.list (texts.map .text)))
    (parent : Option String) (cs : List Markup.Node) :
    (∀ w root w', (cv.liveNode parent (.element name attributes cs)).exec w = (.ok root, w') →
      ∃ r as, root = some r ∧ w'.store.attributes? r = some as ∧
        as.classList = (texts.flatMap Text.words).eraseDups ∧
        ∀ word, word ∈ as.classList ↔
          ∃ text ∈ texts, Text.IsStretch word.toList text.toList) ∧
    (cv.registry.OfClasses → (Markup.Node.element name attributes cs).isPlain = true →
      ∀ w, ∃ root w', (cv.liveNode parent (.element name attributes cs)).exec w =
        (.ok root, w')) := by
  refine ⟨fun w root w' h => ?_, fun hr hn => liveNode_succeeds hr parent hn⟩
  obtain ⟨product, -, hconverts⟩ := liveNode_element h
  cases hconverts with
  | element htexts hbody =>
    have hwords := classList_filled distinct given
    refine ⟨_, _, rfl, by rw [Store.attributes?, hbody], hwords _ _, fun word => ?_⟩
    rw [hwords, List.mem_eraseDups, List.mem_flatMap]
    exact exists_congr fun text => and_congr_right fun _ => Text.mem_words_iff
  | other hleaf hbare =>
    -- there is a class attribute, and nothing else than an element can have it
    rw [hbare] at given
    exact absurd given (by simp [Entries.find?])

/-- Class names with blanks of all sorts around them, among texts without any. -/
def looseClass : List String :=
  ["", "\tbig  round\u00a0", "\n", "round\u3000\u2028red", ""]

/-- The attributes of an element with these class names. -/
def looseAttributes : List (String × Value) :=
  [("id", .text "a"), ("class", .list (looseClass.map .text))]

theorem classList_liveNode_loose :
    (Entries.names looseAttributes).Nodup ∧
      Entries.find? "class" looseAttributes = some (.list (looseClass.map .text)) ∧
      badgeConverter.registry.OfClasses ∧
      ∃ r as w', (badgeConverter.liveNode none (.element "X-Badge" looseAttributes
          [.string .plain "new"])).exec ⟨.empty, .initial⟩ = (.ok (some r), w') ∧
        w'.store.attributes? r = some as ∧ as.classList = ["big", "round", "red"] := by
  have hdistinct : (Entries.names looseAttributes).Nodup := by decide
  obtain ⟨hwords, hruns⟩ := @classList_liveNode badgeConverter _ "X-Badge" looseClass hdistinct rfl
    none [.string .plain "new"]
  obtain ⟨root, w', hrun⟩ := hruns ofClasses_badgeConverter rfl ⟨.empty, .initial⟩
  obtain ⟨r, as, rfl, has, hclass, -⟩ := hwords _ _ _ hrun
  exact ⟨hdistinct, rfl, ofClasses_badgeConverter, r, as, w', hrun, has,
    hclass.trans (by decide +kernel)⟩

end TypedMarkup.Converter
