import TypedMarkup.Proofs.Registry.Additions

/-!
# Histories of a registry

A registry that is used by any calls (`Registration`), failing ones among them, with the factories
called and the replacements logged (`Ledger`). A call that gives a definition adds it, and a call
that fails adds nothing (`Holds.perform`); so a registry holds what the calls have given in turn
(`Holds.run`), and `views_of_history` reads all its views off these definitions.

A factory may have taken the tag from the element that it gives. A definition is then stored under
the empty tag, which is contained like any other, but which `lookup?` never finds
(`contains_nameless`).
-/

namespace TypedMarkup

/-! ## Constructors and definitions -/

/-- The product is a semantic container or void element. -/
def Product.IsSemantic (product : Product) : Prop :=
  ∃ c tag attributes children,
    product = .node (.element (.semantic c) tag attributes children) ∧ c.form ≠ .bare

namespace Definition

theorem sample?_eq_some {product : Product} {c : SemanticClass} {tag : String} {isVoid : Bool}
    (h : sample? product = some (c, tag, isVoid)) :
    ∃ attributes children,
      product = .node (.element (.semantic c) tag attributes children) ∧ c.form ≠ .bare := by
  unfold sample? at h
  split at h
  · rename_i c' tag' attributes children
    cases hf : c'.form <;> simp only [hf, reduceCtorEq, Option.some.injEq, Prod.mk.injEq] at h
    all_goals
      obtain ⟨rfl, rfl, -⟩ := h
      exact ⟨attributes, children, rfl, by simp [hf]⟩
  · exact absurd h (by simp)

theorem sample?_eq_none_iff {product : Product} :
    sample? product = none ↔ ¬ product.IsSemantic := by
  constructor
  · rintro h ⟨c, tag, attributes, children, rfl, hf⟩
    unfold sample? at h
    cases hform : c.form <;> simp [hform] at h hf
  · intro h
    cases hs : sample? product with
    | none => rfl
    | some sample =>
      obtain ⟨attributes, children, hp, hf⟩ := sample?_eq_some hs
      exact absurd ⟨_, _, attributes, children, hp, hf⟩ h

/-- No definition is made just when the constructor fails or gives something else than a semantic
container or void element. -/
theorem make_fails_iff (constructor : Constructor) (named : Option SemanticClass) (calls : Calls) :
    (∃ fault, (make constructor named calls).1 = .error fault) ↔
      ∀ product, (constructor.call calls).1 = .ok product → ¬ product.IsSemantic := by
  simp only [make, ← sample?_eq_none_iff]
  cases (constructor.call calls).1 with
  | error fault => simp [bind, Except.bind]
  | ok product => cases h : sample? product <;> simp [bind, Except.bind, h]

end Definition

namespace Registry

/-! ## Calls -/

/-- A call that changes a registry. To make a registry of definitions is to add them in turn. -/
inductive Registration where
  | register (constructor : Constructor) (named : Option SemanticClass)
  | add (d : Definition)

/-- A registry in use, with the factories called so far and the replacements logged, in order. -/
structure Ledger where
  registry : Registry
  calls : Calls
  log : List Replacement

/-- A new registry, after these calls to factories. -/
def Ledger.initial (calls : Calls) : Ledger :=
  ⟨.empty, calls, []⟩

/-- What a call answers, and what it leaves. -/
def Registration.perform (ledger : Ledger) : Registration → Except Fault Definition × Ledger
  | .register constructor named =>
    let r := ledger.registry.register constructor named ledger.calls
    (r.result, ⟨r.registry, r.calls, ledger.log ++ r.replaced.toList⟩)
  | .add d =>
    let (registry, replaced) := ledger.registry.add d
    (.ok d, ⟨registry, ledger.calls, ledger.log ++ replaced.toList⟩)

/-- What several calls answer, and what they leave. -/
def run (ledger : Ledger) : List Registration → List (Except Fault Definition) × Ledger
  | [] => ([], ledger)
  | r :: rs =>
    let (answer, after) := r.perform ledger
    let (answers, last) := run after rs
    (answer :: answers, last)

/-- The definitions among the answers, which are those of the calls that succeeded. -/
def added (answers : List (Except Fault Definition)) : List Definition :=
  answers.filterMap Except.toOption

theorem run_cons (ledger : Ledger) (r : Registration) (rs : List Registration) :
    run ledger (r :: rs) =
      ((r.perform ledger).1 :: (run (r.perform ledger).2 rs).1, (run (r.perform ledger).2 rs).2) :=
  rfl

theorem added_cons (answer : Except Fault Definition) (answers : List (Except Fault Definition)) :
    added (answer :: answers) = answer.toOption.toList ++ added answers := by
  cases answer <;> rfl

/-- A call adds the definition that it answers; a call that fails leaves registry and log. -/
theorem perform_cases (r : Registration) (ledger : Ledger) :
    (∃ d, (r.perform ledger).1 = .ok d ∧
      (r.perform ledger).2.registry = (ledger.registry.add d).1 ∧
      (r.perform ledger).2.log = ledger.log ++ (ledger.registry.add d).2.toList) ∨
    ∃ fault, (r.perform ledger).1 = .error fault ∧
      (r.perform ledger).2.registry = ledger.registry ∧ (r.perform ledger).2.log = ledger.log := by
  cases r with
  | add d => exact .inl ⟨d, rfl, rfl, rfl⟩
  | register constructor named =>
    simp only [Registration.perform, register]
    cases Definition.make constructor named ledger.calls with
    | mk result calls =>
      cases result with
      | ok d => exact .inl ⟨d, rfl, rfl, rfl⟩
      | error fault => exact .inr ⟨fault, rfl, rfl, List.append_nil _⟩

theorem perform_register_fst (constructor : Constructor) (named : Option SemanticClass)
    (ledger : Ledger) :
    ((Registration.register constructor named).perform ledger).1 =
      (Definition.make constructor named ledger.calls).1 := by
  simp only [Registration.perform, register]
  cases Definition.make constructor named ledger.calls with
  | mk result calls => cases result <;> rfl

/-- Registering a class keeps a registry one of classes, whether it succeeds or not. -/
theorem ofClasses_perform_register {ledger : Ledger} (h : ledger.registry.OfClasses)
    (c : SemanticClass) (named : Option SemanticClass) :
    ((Registration.register (.ofClass c) named).perform ledger).2.registry.OfClasses := by
  rcases perform_cases (.register (.ofClass c) named) ledger with ⟨d, hd, hregistry, -⟩ | hfault
  · rw [perform_register_fst] at hd
    rw [hregistry]
    exact .add h hd
  · obtain ⟨_, -, hregistry, -⟩ := hfault
    rwa [hregistry]

/-! ## What a history leaves -/

/-- The registry holds what the definitions leave that have been added in turn, and each addition
has made an entry or a replacement. -/
structure Ledger.Holds (ledger : Ledger) (ds : List Definition) : Prop where
  registry : ledger.registry = ofDefinitions ds
  log : ledger.log.length + ledger.registry.length = ds.length

theorem holds_initial (calls : Calls) : (Ledger.initial calls).Holds [] :=
  ⟨rfl, rfl⟩

theorem Ledger.Holds.perform {ledger : Ledger} {ds : List Definition} (h : ledger.Holds ds)
    (r : Registration) :
    (r.perform ledger).2.Holds (ds ++ (r.perform ledger).1.toOption.toList) := by
  rcases perform_cases r ledger with ⟨d, hd, hregistry, hlog⟩ | ⟨fault, hf, hregistry, hlog⟩
  · have hlength := length_add d ledger.registry
    have hds := h.log
    rw [hd]
    constructor
    · rw [hregistry, h.registry]
      exact (ofDefinitions_concat ds d).symm
    · rw [hregistry, hlog, List.length_append, List.length_append]
      show _ = ds.length + 1
      omega
  · rw [hf]
    constructor
    · rw [hregistry, h.registry]
      exact congrArg ofDefinitions (List.append_nil ds).symm
    · rw [hregistry, hlog, h.log]
      exact congrArg List.length (List.append_nil ds).symm

theorem Ledger.Holds.run {ledger : Ledger} {ds : List Definition} (h : ledger.Holds ds)
    (rs : List Registration) :
    (run ledger rs).2.Holds (ds ++ added (run ledger rs).1) := by
  induction rs generalizing ledger ds with
  | nil => exact (List.append_nil ds).symm ▸ h
  | cons r rs ih =>
    have hrest := ih (h.perform r)
    rw [List.append_assoc] at hrest
    rw [run_cons, added_cons]
    exact hrest

/-! ## Main statement -/

theorem isFor_empty {d : Definition} : d.isFor "" = true ↔ d.tag = "" := by
  rw [Definition.isFor, beq_iff_eq]
  have hempty : Text.lower "" = "" := rfl
  rw [hempty, ← String.isEmpty_iff, Text.lower_isEmpty, String.isEmpty_iff]

/-- A tag is contained just when one of the definitions is for it. -/
theorem contains_ofDefinitions (ds : List Definition) (tag : String) :
    (ofDefinitions ds).contains (.text tag) = (ds.filter (·.isFor tag)).getLast?.isSome := by
  rw [← find?_ofDefinitions]
  rfl

/-- After any calls on a new registry, failing ones included, a tag that is not empty finds the last
definition that a call has added for it, and is contained just when it finds one. The empty tag finds
nothing, and is contained just when a definition has been added for it. The names are the tags added
in small letters, once each, in the order in which they first came; there is one entry for each tag,
and all further additions have been logged as replacements. A registration fails just when its
constructor fails or gives something else than a semantic container or void element, and then it
leaves registry and log as they are. -/
theorem views_of_history (rs : List Registration) (calls : Calls) :
    let ledger := (run (.initial calls) rs).2
    let ds := added (run (.initial calls) rs).1
    (∀ tag, tag.isEmpty = false →
        ledger.registry.lookup? tag = (ds.filter (·.isFor tag)).getLast? ∧
        ledger.registry.contains (.text tag) = (ledger.registry.lookup? tag).isSome) ∧
      ledger.registry.lookup? "" = none ∧
      (ledger.registry.contains (.text "") = true ↔ ∃ d ∈ ds, d.tag = "") ∧
      ledger.registry.tagNames = (ds.map Definition.key).eraseDups ∧
      ledger.registry.length = (ds.map Definition.key).toFinset.card ∧
      ledger.registry.length ≤ ds.length ∧
      ledger.log.length = ds.length - ledger.registry.length ∧
      ∀ constructor named,
        let call := Registration.register constructor named
        ((∃ fault, (call.perform ledger).1 = .error fault) ↔
          ∀ product, (constructor.call ledger.calls).1 = .ok product → ¬ product.IsSemantic) ∧
        ∀ fault, (call.perform ledger).1 = .error fault →
          (call.perform ledger).2.registry = ledger.registry ∧
            (call.perform ledger).2.log = ledger.log := by
  intro ledger ds
  have hholds : ledger.Holds ds := (holds_initial calls).run rs
  have hlog := hholds.log
  refine ⟨fun tag htag => ?_, rfl, ?_, ?_, ?_, by omega, by omega,
    fun constructor named => ⟨?_, ?_⟩⟩
  · have hlookup : ledger.registry.lookup? tag = (ds.filter (·.isFor tag)).getLast? := by
      rw [hholds.registry, lookup?_ofDefinitions, if_neg (by simp [htag])]
    refine ⟨hlookup, ?_⟩
    rw [hlookup, hholds.registry, contains_ofDefinitions]
  · rw [hholds.registry, contains_ofDefinitions, List.getLast?_isSome, ne_eq, List.filter_eq_nil_iff]
    simp only [isFor_empty, not_forall, not_not, exists_prop]
  · rw [hholds.registry, tagNames_ofDefinitions]
  · rw [hholds.registry, length_ofDefinitions]
  · rw [perform_register_fst]
    exact Definition.make_fails_iff constructor named ledger.calls
  · intro fault hf
    rcases perform_cases (.register constructor named) ledger with ⟨d, hd, -⟩ | ⟨_, -, hsame⟩
    · rw [hf] at hd
      exact absurd hd (by simp)
    · exact hsame

/-- A class of containers, a class of void elements with its tag in other letters, and a class that
says nothing about children. -/
def card : SemanticClass :=
  ⟨"Card", [], .container, "X-Card", .block, []⟩

def tile : SemanticClass :=
  ⟨"Tile", [], .void, "x-CARD", .inline, []⟩

def bareCard : SemanticClass :=
  ⟨"BareCard", [], .bare, "x-card", .block, []⟩

/-- A definition is added, two classes are registered behind it, of which one fails, and the
definition for the tag is replaced. -/
def cardHistory : List Registration :=
  [.add ⟨.ofClass chipLike, chipLike, "x-chip", false⟩, .register (.ofClass card) none,
    .register (.ofClass bareCard) none, .register (.ofClass tile) none]
where
  chipLike : SemanticClass := ⟨"Chip", [], .container, "x-chip", .inline, []⟩

theorem views_of_history_cards :
    "x-Card".isEmpty = false ∧
      ((run (.initial []) cardHistory).2.registry.lookup? "x-Card").map (·.elementClass.name) =
        some "Tile" ∧
      (run (.initial []) cardHistory).2.registry.tagNames = ["x-chip", "x-card"] ∧
      (run (.initial []) cardHistory).2.log.length = 1 := by
  have hadded : added (run (.initial []) cardHistory).1 =
      [⟨.ofClass cardHistory.chipLike, cardHistory.chipLike, "x-chip", false⟩,
        ⟨.ofClass card, card, Text.lower card.tag, false⟩,
        ⟨.ofClass tile, tile, Text.lower tile.tag, true⟩] := rfl
  obtain ⟨hlookup, -, -, hnames, hlength, -, hlog, -⟩ := views_of_history cardHistory []
  simp only [hadded] at hlookup hnames hlength hlog
  have htag : "x-Card".isEmpty = false := rfl
  refine ⟨htag, ?_, ?_, ?_⟩
  · rw [(hlookup _ htag).1]
    decide +kernel
  · rw [hnames]
    decide +kernel
  · rw [hlog, hlength]
    decide +kernel

/-- A factory of cards that takes their tags from them. -/
def nameless : Factory :=
  ⟨3, "make_nameless", fun _ => .ok (.node (.element (.semantic card) "" [] []))⟩

/-- The factory is registered, and behind it the class of cards. -/
def namelessHistory : List Registration :=
  [.register (.ofFactory nameless) none, .register (.ofClass card) none]

/-- The empty tag is contained and finds nothing, and the class is listed in small letters. -/
theorem contains_nameless :
    (run (.initial []) namelessHistory).2.registry.contains (.text "") = true ∧
      (run (.initial []) namelessHistory).2.registry.lookup? "" = none ∧
      card.tag = "X-Card" ∧
      (run (.initial []) namelessHistory).2.registry.tagNames = ["", "x-card"] := by
  decide +kernel

end Registry

end TypedMarkup
