import TypedMarkup.Proofs.Conversion.Survivors

/-!
# Conversions that agree

Two conversions of the same markup, with two registries, side by side. A conversion asks its
registry only for the elements that it visits (`Converter.Visits`): those with no element above them
that becomes void. If there both registries agree on whether an element owns children, on its preset
attributes and, up to some map of element types, on its type (`Converter.AgreeOn`), then the two
conversions do the same, up to this map (`Converter.retype_node`), and also when they fail.

What is visited depends on the registry as well, but only on what it has for visited elements
(`Converter.Visits.of_agree`).
-/

namespace TypedMarkup

/-! ## Other types for the elements of a tree -/

namespace Tree

mutual

/-- The tree with other element types. -/
def retype (f : ElementType → ElementType) : Tree → Tree
  | element type tag attributes cs => element (f type) tag attributes (retypes f cs)
  | text data => text data
  | comment data => comment data
  | rawData data => rawData data

/-- Several trees with other element types. -/
def retypes (f : ElementType → ElementType) : List Tree → List Tree
  | [] => []
  | t :: ts => retype f t :: retypes f ts

end

theorem retypes_eq_map (f : ElementType → ElementType) (ts : List Tree) :
    retypes f ts = ts.map (retype f) := by
  induction ts with
  | nil => rfl
  | cons t ts ih => rw [retypes, ih, List.map_cons]

mutual

theorem retype_id : (t : Tree) → t.retype id = t
  | element type tag attributes cs => by rw [retype, retypes_id cs]; rfl
  | text _ => rfl
  | comment _ => rfl
  | rawData _ => rfl

theorem retypes_id : (ts : List Tree) → retypes id ts = ts
  | [] => rfl
  | t :: ts => by rw [retypes, retype_id t, retypes_id ts]

end

end Tree

/-- A map on the result of a conversion changes nothing else. -/
theorem Conversion.exec_map {α β : Type} (g : α → β) (c : Conversion α) (session : Session) :
    (g <$> c).exec session = ((c.exec session).1.map g, (c.exec session).2) := by
  rw [exec, ExceptT.run_map, StateT.run_map]
  rfl

namespace Converter

variable {cv cv' : Converter} {f : ElementType → ElementType}

/-! ## Visited elements -/

/-- There is an element of this name that has no element above it that becomes void. -/
def Visits (cv : Converter) (root : Markup.Node) (name : String) : Prop :=
  ∃ p attributes cs, root.at? p = some (.element name attributes cs) ∧
    ∀ q, q <+: p → q ≠ p → ¬ cv.VoidAt root q

section Visits

variable {name : String} {attributes : List (String × Value)} {cs : List Markup.Node}

/-- What is visited is what a conversion comes to and what has this name. -/
theorem visits_iff {root : Markup.Node} :
    cv.Visits root name ↔ cv.ReachesSome (fun n => n.name? = some name) root := by
  constructor
  · rintro ⟨p, attributes, cs, hp, hopen⟩
    exact ⟨p, _, ⟨hp, hopen⟩, rfl⟩
  · rintro ⟨p, n, h, hname⟩
    cases n with
    | element m attributes cs =>
      obtain rfl := Option.some.inj hname
      exact ⟨p, attributes, cs, h.found, h.open_above⟩
    | string | foreign | absent => exact absurd hname (by simp [Markup.Node.name?])

/-- In an element that becomes void nothing is visited, and in another the same as in its
children. -/
theorem visits_element_iff {m : String} :
    cv.Visits (.element name attributes cs) m ↔
      m = name ∨ cv.makesVoid name = false ∧ ∃ c ∈ cs, cv.Visits c m := by
  simp only [visits_iff, reachesSome_element_iff, Markup.Node.name?, Option.some.injEq, eq_comm]

theorem visits_root : cv.Visits (.element name attributes cs) name :=
  visits_element_iff.mpr (.inl rfl)

/-- What is visited in a child is visited below an element that does not become void. -/
theorem Visits.below {c : Markup.Node} {m : String} (h : cv.Visits c m) (hc : c ∈ cs)
    (hvoid : cv.makesVoid name = false) : cv.Visits (.element name attributes cs) m :=
  visits_element_iff.mpr (.inr ⟨hvoid, c, hc, h⟩)

theorem Visits.isElement {n : Markup.Node} {m : String} (h : cv.Visits n m) :
    n.isElement = true := by
  by_contra hn
  have hname := (reachesSome_iff_of_not_isElement (by simpa using hn)).mp (visits_iff.mp h)
  cases n with
  | element => exact hn rfl
  | string | foreign | absent => exact absurd hname (by simp [Markup.Node.name?])

/-- Converters visit the same if they agree on which of the elements that both visit become void,
by induction on the node. -/
theorem Visits.of_agree {m : String} : {n : Markup.Node} →
    (∀ k, cv.Visits n k → cv'.Visits n k → cv.makesVoid k = cv'.makesVoid k) →
      cv.Visits n m → cv'.Visits n m
  | .element name attributes cs, h, hv => by
    rcases visits_element_iff.mp hv with rfl | ⟨hvoid, c, hc, hm⟩
    · exact visits_root
    · have hvoid' : cv'.makesVoid name = false := by rw [← h name visits_root visits_root, hvoid]
      have hchild : cv'.Visits c m :=
        hm.of_agree fun k hk hk' => h k (hk.below hc hvoid) (hk'.below hc hvoid')
      exact hchild.below hc hvoid'
  | .string .., _, hv => absurd hv.isElement (by simp [Markup.Node.isElement])
  | .foreign _, _, hv => absurd hv.isElement (by simp [Markup.Node.isElement])
  | .absent, _, hv => absurd hv.isElement (by simp [Markup.Node.isElement])
termination_by n => n
decreasing_by
  have hsize := List.sizeOf_lt_of_mem hc
  simp only [Markup.Node.element.sizeOf_spec]
  omega

end Visits

/-! ## Two conversions -/

/-- Two converters build the same of the elements of a name, up to a map of types. -/
structure AgreeOn (f : ElementType → ElementType) (cv cv' : Converter) (name : String) :
    Prop where
  types : f (cv.typeOf name) = f (cv'.typeOf name)
  owns : (cv.typeOf name).ownsChildren = (cv'.typeOf name).ownsChildren
  presets : cv.presetsOf name = cv'.presetsOf name

theorem report_congr (h : cv.reportUnknown = cv'.reportUnknown) : cv.report = cv'.report := by
  funext typeName
  rw [report, report, h]

/-- Strings are converted without the registry. -/
theorem string_congr (h : cv.reportUnknown = cv'.reportUnknown) : cv.string = cv'.string := by
  funext parent sort data
  simp only [string, report_congr h]

/-- An element is what is made of the children, under its own type. -/
theorem retype_element (f : ElementType → ElementType) (hr : cv.registry.OfClasses)
    (parent : Option String) (name : String) (attributes : List (String × Value))
    (cs : List Markup.Node) :
    Option.map (Tree.retype f) <$> cv.node parent (.element name attributes cs) =
      match copyAttributes (cv.presetsOf name) attributes with
      | .error fault => throw fault
      | .ok texts =>
        (fun trees => some (.element (f (cv.typeOf name)) (Text.lower name) texts trees)) <$>
          if (cv.typeOf name).ownsChildren then Tree.retypes f <$> cv.nodes name cs
          else pure [] := by
  rw [node, build_lower hr, pure_bind]
  simp only
  cases copyAttributes (cv.presetsOf name) attributes with
  | error fault => rfl
  | ok texts =>
    cases (cv.typeOf name).ownsChildren with
    | false => rfl
    | true =>
      simp only [if_true, map_eq_pure_bind, bind_assoc, pure_bind, Option.map_some, Tree.retype,
        List.nil_append]

theorem retypes_nodes_cons (f : ElementType → ElementType) (cv : Converter) (parent : String)
    (n : Markup.Node) (ns : List Markup.Node) :
    Tree.retypes f <$> cv.nodes parent (n :: ns) = (do
      let tree ← Option.map (Tree.retype f) <$> cv.node (some parent) n
      let trees ← Tree.retypes f <$> cv.nodes parent ns
      pure (tree.toList ++ trees)) := by
  have hsplit (tree : Option Tree) (trees : List Tree) :
      Tree.retypes f (tree.toList ++ trees) =
        (tree.map (Tree.retype f)).toList ++ Tree.retypes f trees := by
    rw [Tree.retypes_eq_map, Tree.retypes_eq_map, List.map_append]
    cases tree <;> rfl
  rw [nodes]
  simp only [map_eq_pure_bind, bind_assoc, pure_bind, hsplit]

mutual

/-- Converters that agree on all elements that are visited do the same, up to the types, by
induction on the node together with the nodes in it. -/
theorem retype_node (hr : cv.registry.OfClasses) (hr' : cv'.registry.OfClasses)
    (hreport : cv.reportUnknown = cv'.reportUnknown) (parent : Option String) :
    (n : Markup.Node) → (∀ name, cv.Visits n name → AgreeOn f cv cv' name) →
      Option.map (Tree.retype f) <$> cv.node parent n =
        Option.map (Tree.retype f) <$> cv'.node parent n
  | .element name attributes cs, h => by
    have hname := h name visits_root
    rw [retype_element f hr, retype_element f hr', ← hname.presets, ← hname.types,
      ← hname.owns]
    cases howns : (cv.typeOf name).ownsChildren with
    | false => rfl
    | true =>
      -- the element does not become void, so that what is visited in it is visited from here
      have hvoid : cv.makesVoid name = false := by
        rw [ownsChildren_typeOf hr] at howns
        simpa using howns
      rw [retypes_nodes hr hr' hreport name cs fun c hc m hm => h m (hm.below hc hvoid)]
  | .string sort data, _ => by rw [node, node, string_congr hreport]
  | .foreign typeName, _ => by rw [node, node, report_congr hreport]
  | .absent, _ => by rw [node, node]

theorem retypes_nodes (hr : cv.registry.OfClasses) (hr' : cv'.registry.OfClasses)
    (hreport : cv.reportUnknown = cv'.reportUnknown) (parent : String) :
    (ns : List Markup.Node) →
    (∀ n ∈ ns, ∀ name, cv.Visits n name → AgreeOn f cv cv' name) →
      Tree.retypes f <$> cv.nodes parent ns = Tree.retypes f <$> cv'.nodes parent ns
  | [], _ => by rw [nodes, nodes]
  | n :: ns, h => by
    obtain ⟨hn, hns⟩ := List.forall_mem_cons.mp h
    rw [retypes_nodes_cons, retypes_nodes_cons, retype_node hr hr' hreport (some parent) n hn,
      retypes_nodes hr hr' hreport parent ns hns]

end

end Converter

end TypedMarkup
