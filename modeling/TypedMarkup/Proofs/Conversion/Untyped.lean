import TypedMarkup.Proofs.Conversion.Agreement

/-!
# Conversions up to the types of elements

An element with a definition is built by its class, under the tag and with the attributes of the
class, and any other by the catalog. Classes that start with no attributes and are void just when
the catalog says so of their tags (`Registry.FollowsCatalog`) change nothing but types: both ways
agree on every name (`agreeOn_of_followsCatalog`), and with the types forgotten (`Tree.untyped`) a
conversion is the same as one without definitions (`node_untyped`).
-/

namespace TypedMarkup

/-- The tree with the types of its elements forgotten: all elements have one type, and tags,
attributes, texts and the places of the nodes are as they were. -/
def Tree.untyped (t : Tree) : Tree :=
  t.retype fun _ => .standard .blockContainer

/-- The class starts with no attributes and treats children as the catalog does for its tag. -/
structure SemanticClass.FollowsCatalog (c : SemanticClass) : Prop where
  presets : c.presets = []
  void : c.form = .void ↔ (Catalog.resolve c.tag).content = .void

/-- All classes in the registry treat children as the catalog does, and start with no attributes. -/
def Registry.FollowsCatalog (r : Registry) : Prop :=
  ∀ entry ∈ r, ∀ c, entry.2.constructor = .ofClass c → c.FollowsCatalog

namespace Converter

variable {cv cv' : Converter}

/-! ## Both ways to build an element -/

section FollowsCatalog

variable (hr : cv.registry.OfClasses) (hcat : cv.registry.FollowsCatalog)
include hr hcat

/-- What has been registered for a name plays no part in whether its elements become void. -/
theorem makesVoid_of_followsCatalog (name : String) :
    cv.makesVoid name = ((Catalog.resolve (Text.lower name)).content == .void) := by
  unfold makesVoid
  rcases class?_cases hr name with ⟨d, c, hd, hc, htag, -⟩ | ⟨hd, -⟩
  · have hvoid := (hcat _ (hr.lookup?_spec hd).1 c hc.constructor).void
    simp only [hd]
    rw [hc.isVoid, htag, resolve_lower, Bool.eq_iff_iff, beq_iff_eq, beq_iff_eq]
    exact hvoid
  · simp only [hd]

theorem presetsOf_of_followsCatalog (name : String) : cv.presetsOf name = [] := by
  unfold presetsOf
  rcases class?_cases hr name with ⟨d, c, hd, hc, -, hclass⟩ | ⟨-, hclass⟩
  · have hnone := (hcat _ (hr.lookup?_spec hd).1 c hc.constructor).presets
    simp only [hclass, SemanticClass.attributes, hnone]
    rfl
  · simp only [hclass]

end FollowsCatalog

theorem agreeOn_of_followsCatalog (hr : cv.registry.OfClasses) (hr' : cv'.registry.OfClasses)
    (hcat : cv.registry.FollowsCatalog) (hcat' : cv'.registry.FollowsCatalog) (name : String) :
    AgreeOn (fun _ => .standard .blockContainer) cv cv' name where
  types := rfl
  owns := by
    rw [ownsChildren_typeOf hr, ownsChildren_typeOf hr', makesVoid_of_followsCatalog hr hcat,
      makesVoid_of_followsCatalog hr' hcat']
  presets := by
    rw [presetsOf_of_followsCatalog hr hcat, presetsOf_of_followsCatalog hr' hcat']

/-- The converter with the empty registry. -/
def withoutDefinitions (cv : Converter) : Converter :=
  ⟨.empty, cv.reportUnknown⟩

theorem ofClasses_withoutDefinitions (cv : Converter) :
    cv.withoutDefinitions.registry.OfClasses := .empty

theorem followsCatalog_withoutDefinitions (cv : Converter) :
    cv.withoutDefinitions.registry.FollowsCatalog :=
  fun _ h => absurd h List.not_mem_nil

/-! ## Main statement -/

/-- With classes that follow the catalog, any markup is converted to the same tree as without
definitions, up to the types of elements, or fails in the same way; the same nodes are reported as
left out. Markup with plain attribute values does not fail. -/
theorem node_untyped (hr : cv.registry.OfClasses) (hcat : cv.registry.FollowsCatalog)
    (parent : Option String) (n : Markup.Node) (session : Session) :
    let registered := (cv.node parent n).exec session
    let standard := (cv.withoutDefinitions.node parent n).exec session
    registered.1.map (Option.map Tree.untyped) = standard.1.map (Option.map Tree.untyped) ∧
      registered.2 = standard.2 ∧
      (n.isPlain = true → ∃ t u, registered.1 = .ok t ∧ standard.1 = .ok u) := by
  intro registered standard
  have hr' := cv.ofClasses_withoutDefinitions
  have hnode : Option.map Tree.untyped <$> cv.node parent n =
      Option.map Tree.untyped <$> cv.withoutDefinitions.node parent n :=
    retype_node hr hr' rfl parent n fun name _ =>
      agreeOn_of_followsCatalog hr hr' hcat cv.followsCatalog_withoutDefinitions name
  have hrun := congrArg (Conversion.exec · session) hnode
  simp only [Conversion.exec_map, Prod.mk.injEq] at hrun
  refine ⟨hrun.1, hrun.2, fun hn => ⟨cv.output parent n, cv.withoutDefinitions.output parent n, ?_⟩⟩
  exact ⟨congrArg Prod.fst (node_exec hr parent n hn session),
    congrArg Prod.fst (node_exec hr' parent n hn session)⟩

/-- A class of containers with a tag of its own, and a class for a tag that is void by the
catalog. -/
def panel : SemanticClass :=
  ⟨"Panel", [], .container, "x-panel", .inline, []⟩

def rule : SemanticClass :=
  ⟨"Rule", [], .void, "Hr", .block, []⟩

/-- A converter that knows both classes. -/
def panelConverter : Converter :=
  ⟨((Registry.add ⟨.ofClass panel, panel, "x-panel", false⟩ .empty).1.add
    ⟨.ofClass rule, rule, "hr", true⟩).1, true⟩

/-- A panel with a rule, which is not empty, and a node without a category in it. -/
def panelPage : Markup.Node :=
  .element "X-Panel" [("id", .int 1)] [.element "hr" [] [.string .plain "lost"], .foreign "Odd"]

/-- What this panel is converted to. -/
def panelTree : Tree :=
  .element (.semantic panel) "x-panel" [("id", "1")] [.element (.semantic rule) "hr" [] []]

theorem lower_panelPage : Text.lower "X-Panel" = "x-panel" ∧ Text.lower "hr" = "hr" := by
  decide +kernel

theorem ofClasses_panelConverter : panelConverter.registry.OfClasses := by
  have hlower : Text.lower rule.tag = "hr" := by decide +kernel
  have hrule := Definition.make_of_declared (c := rule) rfl (by decide) none []
  rw [hlower] at hrule
  exact .add (.add .empty (Definition.make_of_declared rfl (by decide) none [])) hrule

theorem registry_panelConverter :
    panelConverter.registry =
      [("x-panel", ⟨.ofClass panel, panel, "x-panel", false⟩),
        ("hr", ⟨.ofClass rule, rule, "hr", true⟩)] := by
  have hpanel : Text.lower "x-panel" = "x-panel" := by decide +kernel
  simp only [panelConverter, Registry.add, hpanel, lower_panelPage.2]
  rfl

theorem followsCatalog_panelConverter : panelConverter.registry.FollowsCatalog := by
  rw [registry_panelConverter]
  intro entry hentry c hc
  simp only [List.mem_cons, List.not_mem_nil, or_false] at hentry
  rcases hentry with rfl | rfl
  · obtain rfl := Constructor.ofClass.inj hc
    exact ⟨rfl, by decide +kernel⟩
  · obtain rfl := Constructor.ofClass.inj hc
    exact ⟨rfl, by decide +kernel⟩

theorem class?_panelConverter :
    panelConverter.class? "X-Panel" = some panel ∧ panelConverter.class? "hr" = some rule := by
  simp only [class?, registry_panelConverter, lower_panelPage]
  exact ⟨rfl, rfl⟩

theorem output_panelPage : panelConverter.output none panelPage = some panelTree := by
  simp only [panelPage, output, outputs, typeOf, presetsOf, class?_panelConverter, lower_panelPage]
  rfl

theorem skipped_panelPage : panelConverter.skipped none panelPage = ["Odd"] := by
  simp only [panelPage, skipped, skippedBelow, typeOf, class?_panelConverter]
  rfl

theorem node_untyped_panelPage :
    panelConverter.registry.OfClasses ∧ panelConverter.registry.FollowsCatalog ∧
      panelPage.isPlain = true ∧
      (panelConverter.node none panelPage).exec .initial = (.ok (some panelTree), ⟨[], ["Odd"]⟩) ∧
      ∃ t, (panelConverter.withoutDefinitions.node none panelPage).exec .initial =
        (.ok t, ⟨[], ["Odd"]⟩) ∧ t.map Tree.untyped = some panelTree.untyped := by
  have hplain : panelPage.isPlain = true := rfl
  have hrun : (panelConverter.node none panelPage).exec .initial =
      (.ok (some panelTree), ⟨[], ["Odd"]⟩) := by
    rw [node_exec ofClasses_panelConverter none panelPage hplain, output_panelPage,
      skipped_panelPage]
    rfl
  refine ⟨ofClasses_panelConverter, followsCatalog_panelConverter, hplain, hrun, ?_⟩
  obtain ⟨htrees, hleft, hok⟩ := node_untyped ofClasses_panelConverter
    followsCatalog_panelConverter none panelPage .initial
  obtain ⟨-, t, -, ht⟩ := hok hplain
  rw [hrun, ht] at htrees
  rw [hrun] at hleft
  exact ⟨t, Prod.ext ht hleft.symm, (Except.ok.inj htrees).symm⟩

end Converter

end TypedMarkup
