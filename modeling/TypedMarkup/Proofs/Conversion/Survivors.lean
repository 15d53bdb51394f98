import TypedMarkup.Proofs.Conversion.Output
import TypedMarkup.Proofs.Position
import TypedMarkup.Proofs.Text.Blank

/-!
# The nodes that survive a conversion

Which nodes of the input have a place in the output, said of each position on its own: `Survives`
asks for a node that is no text of blanks, no empty raw data and of a known category, and for no
void element on the way to it. `Yields` says what such a node becomes.

`Reaches` is the last of these on its own: a conversion comes to the node. `reaches_cons` and
`survives_cons` read both off the first step of a position, as a conversion does, and
`output_yields` ties survivors to what a converter builds.
-/

namespace TypedMarkup

namespace Markup.Node

/-- The name of the element around the node at a position: that of the node one step above it, or
`parent` at the root. -/
def around (parent : Option String) (root : Node) (p : Position) : Option String :=
  if p = [] then parent else (root.at? p.dropLast).bind name?

/-- Whether a node in an element named `parent` is a text of nothing but blanks. -/
def IsBlankText (parent : Option String) (n : Node) : Prop :=
  ∃ sort data, n = .string sort data ∧ sort.category parent = .text ∧
    ∀ c ∈ data.toList, Text.isBlank c = true

/-- Whether a node in an element named `parent` is raw data without a character. -/
def IsEmptyRawData (parent : Option String) (n : Node) : Prop :=
  ∃ sort, n = .string sort "" ∧ sort.category parent = .rawData

theorem isBlankText_string {parent : Option String} {sort : StringSort} {data : String} :
    (string sort data).IsBlankText parent ↔
      sort.category parent = .text ∧ ∀ c ∈ data.toList, Text.isBlank c = true := by
  constructor
  · rintro ⟨sort', data', h, htext, hblank⟩
    obtain ⟨rfl, rfl⟩ := string.inj h
    exact ⟨htext, hblank⟩
  · exact fun h => ⟨sort, data, rfl, h⟩

theorem isEmptyRawData_string {parent : Option String} {sort : StringSort} {data : String} :
    (string sort data).IsEmptyRawData parent ↔ sort.category parent = .rawData ∧ data = "" := by
  constructor
  · rintro ⟨sort', h, hraw⟩
    obtain ⟨rfl, rfl⟩ := string.inj h
    exact ⟨hraw, rfl⟩
  · rintro ⟨hraw, rfl⟩
    exact ⟨sort, rfl, hraw⟩

@[simp] theorem around_nil (parent : Option String) (root : Node) :
    root.around parent [] = parent := if_pos rfl

theorem around_cons {parent : Option String} {root c : Node} {i : Nat}
    (hc : root.children[i]? = some c) (p : Position) :
    root.around parent (i :: p) = c.around root.name? p := by
  cases p with
  | nil => rw [around_nil, around, if_neg (List.cons_ne_nil i []), List.dropLast_singleton]; rfl
  | cons j p =>
    rw [around, around, if_neg (List.cons_ne_nil _ _), if_neg (List.cons_ne_nil _ _),
      List.dropLast_cons_cons, at?_cons, hc, Option.bind_some]

end Markup.Node

namespace Converter

/-! ## Void elements -/

/-- Whether the elements of a name become void elements: the definition for the name decides, and
where there is none the catalog. -/
def makesVoid (cv : Converter) (name : String) : Bool :=
  match cv.registry.lookup? (Text.lower name) with
  | some d => d.isVoid
  | none => (Catalog.resolve (Text.lower name)).content == .void

/-- Whether there is an element at a position that becomes a void element. -/
def VoidAt (cv : Converter) (root : Markup.Node) (p : Position) : Prop :=
  ∃ name attributes cs, root.at? p = some (.element name attributes cs) ∧ cv.makesVoid name = true

variable {cv : Converter} {parent : Option String} {root n : Markup.Node}

theorem ownsChildren_ofInfo (info : ElementInfo) :
    (Shape.ofInfo info).ownsChildren = !(info.content == .void) := by
  obtain ⟨content, layout⟩ := info
  cases content <;> cases layout <;> rfl

/-- The output of an element owns children just when it is not void. -/
theorem ownsChildren_typeOf (hr : cv.registry.OfClasses) (name : String) :
    (cv.typeOf name).ownsChildren = !cv.makesVoid name := by
  unfold typeOf makesVoid
  rcases class?_cases hr name with ⟨d, c, hd, hc, -, hclass⟩ | ⟨hd, hclass⟩
  · simp only [hd, hclass, ElementType.ownsChildren, hc.isVoid]
    have hform := hc.form
    cases hf : c.form with
    | bare => exact absurd hf hform
    | container => rfl
    | void => rfl
  · simp only [hd, hclass, ElementType.ownsChildren, ownsChildren_ofInfo]

theorem voidAt_nil {name : String} {attributes : List (String × Value)} {cs : List Markup.Node} :
    cv.VoidAt (.element name attributes cs) [] ↔ cv.makesVoid name = true := by
  constructor
  · rintro ⟨_, _, _, h, hv⟩
    rw [Markup.Node.at?_nil] at h
    obtain ⟨hname, -, -⟩ := Markup.Node.element.inj (Option.some.inj h)
    rwa [hname]
  · exact fun hv => ⟨name, attributes, cs, rfl, hv⟩

theorem voidAt_cons {c : Markup.Node} {i : Nat} (hc : root.children[i]? = some c) (q : Position) :
    cv.VoidAt root (i :: q) ↔ cv.VoidAt c q := by
  unfold VoidAt
  rw [Markup.Node.at?_cons, hc]
  rfl

/-! ## What a conversion comes to -/

/-- A node at a position of the input that a conversion comes to: no element above it becomes a
void element. -/
structure Reaches (cv : Converter) (root : Markup.Node) (p : Position) (n : Markup.Node) :
    Prop where
  found : root.at? p = some n
  open_above : ∀ q, q <+: p → q ≠ p → ¬ cv.VoidAt root q

theorem reaches_nil : cv.Reaches root [] n ↔ root = n := by
  refine ⟨fun h => Option.some.inj h.found, fun h => ⟨congrArg some h, fun q hq hne => ?_⟩⟩
  exact absurd (List.prefix_nil.mp hq) hne

/-- A conversion comes to a node below the root just when the root is an element that does not
become void, and it comes to the node in the child that holds it. -/
theorem reaches_cons {i : Nat} {p : Position} :
    cv.Reaches root (i :: p) n ↔
      ∃ name attributes cs c, root = .element name attributes cs ∧ cv.makesVoid name = false ∧
        cs[i]? = some c ∧ cv.Reaches c p n := by
  constructor
  · intro h
    have hf := h.found
    rw [Markup.Node.at?_cons, Option.bind_eq_some_iff] at hf
    obtain ⟨c, hc, hn⟩ := hf
    cases root with
    | string | foreign | absent => exact absurd hc (by simp [Markup.Node.children])
    | element name attributes cs =>
      have hv : ¬ cv.makesVoid name = true := fun hv =>
        h.open_above [] List.nil_prefix (List.cons_ne_nil i p).symm (voidAt_nil.mpr hv)
      refine ⟨name, attributes, cs, c, rfl, by simpa using hv, hc, hn, fun q hq hne => ?_⟩
      rw [← voidAt_cons hc]
      exact h.open_above (i :: q) (List.cons_prefix_cons.mpr ⟨rfl, hq⟩)
        fun he => hne (List.cons.inj he).2
  · rintro ⟨name, attributes, cs, c, rfl, hv, hc, h⟩
    have hc' : (Markup.Node.element name attributes cs).children[i]? = some c := hc
    refine ⟨by rw [Markup.Node.at?_cons, hc', Option.bind_some, h.found], fun q hq hne => ?_⟩
    cases q with
    | nil => rw [voidAt_nil, hv]; exact Bool.false_ne_true
    | cons j q =>
      obtain ⟨rfl, hq'⟩ := List.cons_prefix_cons.mp hq
      rw [voidAt_cons hc']
      exact h.open_above q hq' fun he => hne (by rw [he])

/-- A conversion comes to a node of this sort. -/
def ReachesSome (cv : Converter) (P : Markup.Node → Prop) (root : Markup.Node) : Prop :=
  ∃ p n, cv.Reaches root p n ∧ P n

/-- In an element that becomes void a conversion comes to nothing but the element, and in another
to the same as in its children. -/
theorem reachesSome_element_iff {P : Markup.Node → Prop} {name : String}
    {attributes : List (String × Value)} {cs : List Markup.Node} :
    cv.ReachesSome P (.element name attributes cs) ↔
      P (.element name attributes cs) ∨
        cv.makesVoid name = false ∧ ∃ c ∈ cs, cv.ReachesSome P c := by
  constructor
  · rintro ⟨p, n, hp, hn⟩
    cases p with
    | nil => exact .inl (reaches_nil.mp hp ▸ hn)
    | cons i p =>
      obtain ⟨_, _, _, c, he, hvoid, hc, hp⟩ := reaches_cons.mp hp
      obtain ⟨rfl, rfl, rfl⟩ := Markup.Node.element.inj he
      exact .inr ⟨hvoid, c, List.mem_of_getElem? hc, p, n, hp, hn⟩
  · rintro (h | ⟨hvoid, c, hc, p, n, hp, hn⟩)
    · exact ⟨[], _, reaches_nil.mpr rfl, h⟩
    · obtain ⟨i, hi⟩ := List.mem_iff_getElem?.mp hc
      exact ⟨i :: p, n, reaches_cons.mpr ⟨name, attributes, cs, c, rfl, hvoid, hi, hp⟩, hn⟩

/-- Below a node that is no element there is nothing to come to. -/
theorem reachesSome_iff_of_not_isElement {P : Markup.Node → Prop}
    (h : root.isElement = false) : cv.ReachesSome P root ↔ P root := by
  constructor
  · rintro ⟨p, n, hp, hn⟩
    cases p with
    | nil => exact reaches_nil.mp hp ▸ hn
    | cons i p =>
      obtain ⟨_, _, _, _, rfl, -⟩ := reaches_cons.mp hp
      exact absurd h (by simp [Markup.Node.isElement])
  · exact fun h => ⟨[], root, reaches_nil.mpr rfl, h⟩

/-! ## Survivors -/

/-- A node at a position of the input that has a place in the output. -/
structure Survives (cv : Converter) (parent : Option String) (root : Markup.Node) (p : Position)
    (n : Markup.Node) : Prop where
  found : root.at? p = some n
  not_blank : ¬ n.IsBlankText (root.around parent p)
  not_empty : ¬ n.IsEmptyRawData (root.around parent p)
  known : n.category (root.around parent p) ≠ .unknown
  open_above : ∀ q, q <+: p → q ≠ p → ¬ cv.VoidAt root q

/-- What a survivor in an element named `parent` becomes. -/
inductive Yields (cv : Converter) (parent : Option String) : Markup.Node → Tree → Prop where
  | element {name : String} {attributes : List (String × Value)} {cs : List Markup.Node}
      {type : ElementType} {texts : List (String × String)} {trees : List Tree}
      (owns : type.ownsChildren = !cv.makesVoid name) :
      Yields cv parent (.element name attributes cs)
        (.element type (Text.lower name) texts trees)
  | text {sort : Markup.StringSort} {data : String} (category : sort.category parent = .text)
      (nonempty : Text.strip data ≠ "")
      (first : ∀ c, (Text.strip data).toList.head? = some c → Text.isBlank c = false)
      (last : ∀ c, (Text.strip data).toList.getLast? = some c → Text.isBlank c = false) :
      Yields cv parent (.string sort data) (.text (Text.strip data))
  | comment {sort : Markup.StringSort} {data : String}
      (category : sort.category parent = .comment) :
      Yields cv parent (.string sort data) (.comment data)
  | rawData {sort : Markup.StringSort} {data : String}
      (category : sort.category parent = .rawData) :
      Yields cv parent (.string sort data) (.rawData data)

/-- The converter gives the node its output just when nothing in the node itself forbids it. -/
theorem output_isSome_iff :
    (cv.output parent n).isSome = true ↔
      ¬ n.IsBlankText parent ∧ ¬ n.IsEmptyRawData parent ∧ n.category parent ≠ .unknown := by
  cases n with
  | element name attributes cs =>
    simp [output, Markup.Node.IsBlankText, Markup.Node.IsEmptyRawData, Markup.Node.category]
  | foreign typeName => simp [output, Markup.Node.category]
  | absent => simp [output, Markup.Node.category]
  | string sort data =>
    rw [Markup.Node.isBlankText_string, Markup.Node.isEmptyRawData_string, output, stringOutput,
      Markup.Node.category, ← Text.strip_isEmpty_iff]
    cases hc : sort.category parent with
    | element => exact absurd hc (sort.category_ne_element parent)
    | text => by_cases h : (Text.strip data).isEmpty = true <;> simp [h]
    | comment => simp
    | rawData => by_cases h : data = "" <;> simp [h]
    | unknown => simp

/-- The output of a node is what a survivor becomes. -/
theorem output_yields (hr : cv.registry.OfClasses) {t : Tree} (h : cv.output parent n = some t) :
    cv.Yields parent n t := by
  cases n with
  | element name attributes cs =>
    rw [output] at h
    rw [← Option.some.inj h]
    exact .element (ownsChildren_typeOf hr name)
  | foreign typeName => rw [output] at h; exact absurd h (by simp)
  | absent => rw [output] at h; exact absurd h (by simp)
  | string sort data =>
    rw [output, stringOutput] at h
    cases hc : sort.category parent <;> simp only [hc] at h
    case text =>
      by_cases he : (Text.strip data).isEmpty = true
      · rw [if_pos he] at h
        exact absurd h (by simp)
      · rw [if_neg he] at h
        rw [← Option.some.inj h]
        exact .text hc (fun h0 => he (by rw [h0]; rfl)) (fun _ => Text.strip_head)
          fun _ => Text.strip_getLast
    case comment =>
      rw [← Option.some.inj h]
      exact .comment hc
    case rawData =>
      by_cases he : data.isEmpty = true
      · rw [if_pos he] at h
        exact absurd h (by simp)
      · rw [if_neg he] at h
        rw [← Option.some.inj h]
        exact .rawData hc
    all_goals exact absurd h (by simp)

/-! ## Survivors step by step -/

theorem survives_iff {p : Position} :
    cv.Survives parent root p n ↔
      cv.Reaches root p n ∧ (cv.output (root.around parent p) n).isSome = true := by
  rw [output_isSome_iff]
  exact ⟨fun h => ⟨⟨h.found, h.open_above⟩, h.not_blank, h.not_empty, h.known⟩,
    fun ⟨h, hb, he, hk⟩ => ⟨h.found, hb, he, hk, h.open_above⟩⟩

/-- The root survives just when it has an output. -/
theorem survives_nil :
    cv.Survives parent root [] n ↔ root = n ∧ (cv.output parent n).isSome = true := by
  rw [survives_iff, reaches_nil, Markup.Node.around_nil]

/-- A node below the root survives just when the root is an element that does not become void, and
the node survives in the child that holds it. -/
theorem survives_cons {i : Nat} {p : Position} :
    cv.Survives parent root (i :: p) n ↔
      ∃ name attributes cs c, root = .element name attributes cs ∧ cv.makesVoid name = false ∧
        cs[i]? = some c ∧ cv.Survives (some name) c p n := by
  simp only [survives_iff, reaches_cons]
  constructor
  · rintro ⟨⟨name, attributes, cs, c, rfl, hv, hc, h⟩, hs⟩
    exact ⟨name, attributes, cs, c, rfl, hv, hc, h, by rwa [Markup.Node.around_cons hc] at hs⟩
  · rintro ⟨name, attributes, cs, c, rfl, hv, hc, h, hs⟩
    have ha := @Markup.Node.around_cons parent (.element name attributes cs) c i hc p
    exact ⟨⟨name, attributes, cs, c, rfl, hv, hc, h⟩, by rwa [ha]⟩

end Converter

end TypedMarkup
