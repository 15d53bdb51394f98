import TypedMarkup.Proofs.Registry.History
import TypedMarkup.Proofs.Conversion.LiveElement
import TypedMarkup.Proofs.Conversion.Agreement
import TypedMarkup.Proofs.Store.DocumentOrder

/-!
# One tag in many spellings

The registry, new elements, converters, the search in a container and the catalog each put a tag in
small letters, some of them one that is in small letters already. As small letters are stable
(`Text.lower_lower`), they agree on every spelling: a definition that no later one replaces is found
(`lookup?_of_kept`), builds the elements of that name (`makesInstance_of_lookup?`), and these are
found in what holds them (`foundUnder_of_tag?`), under any spelling that comes to the same small
letters. `spellings_agree` says so of a class and its tag.
-/

namespace TypedMarkup

open Registry

variable {ledger : Ledger} {d : Definition} {tag name : String}

/-! ## Definitions that are not replaced -/

namespace Registry

/-- A definition that is added is found under its tag in any case. -/
theorem lookup?_add_of_isFor {registry : Registry} (hd : d.tag.isEmpty = false)
    (h : d.isFor tag = true) : (registry.add d).1.lookup? tag = some d := by
  rw [Definition.isFor, beq_iff_eq] at h
  have htag : tag.isEmpty = false := by rw [← Text.lower_isEmpty, ← h, Text.lower_isEmpty, hd]
  simp only [lookup?, add]
  rw [htag, if_neg Bool.false_ne_true, Entries.find?_put, if_pos h.symm]

/-- An addition for another tag does not change what a tag finds. -/
theorem lookup?_add_of_not_isFor {registry : Registry} (h : d.isFor tag = false) :
    (registry.add d).1.lookup? tag = registry.lookup? tag := by
  have hne : Text.lower tag ≠ Text.lower d.tag := fun e => by
    rw [Definition.isFor, e, beq_self_eq_true] at h
    exact absurd h (by decide)
  simp only [lookup?, add]
  rw [Entries.find?_put, if_neg hne]

/-- Nor do calls that add no definition for the tag, in any number. -/
theorem lookup?_run {rs : List Registration}
    (h : ∀ e ∈ added (run ledger rs).1, e.isFor tag = false) :
    (run ledger rs).2.registry.lookup? tag = ledger.registry.lookup? tag := by
  induction rs generalizing ledger with
  | nil => rfl
  | cons r rs ih =>
    rw [run_cons, added_cons] at h
    obtain ⟨hfirst, hrest⟩ := List.forall_mem_append.mp h
    rw [run_cons, ih hrest]
    rcases perform_cases r ledger with ⟨e, he, hregistry, -⟩ | ⟨_, -, hregistry, -⟩
    · have hother : e.isFor tag = false := hfirst e (by rw [he]; exact List.mem_singleton_self e)
      rw [hregistry, lookup?_add_of_not_isFor hother]
    · rw [hregistry]

/-- So a definition that a call has answered is found, as long as none is added for its tag. -/
theorem lookup?_of_kept {r : Registration} {rs : List Registration} (hd : d.tag.isEmpty = false)
    (answered : (r.perform ledger).1 = .ok d) (h : d.isFor tag = true)
    (kept : ∀ e ∈ added (run (r.perform ledger).2 rs).1, e.isFor tag = false) :
    (run (r.perform ledger).2 rs).2.registry.lookup? tag = some d := by
  rw [lookup?_run kept]
  rcases perform_cases r ledger with ⟨e, he, hregistry, -⟩ | ⟨_, hfault, -⟩
  · obtain rfl := Except.ok.inj (he.symm.trans answered)
    rw [hregistry, lookup?_add_of_isFor hd h]
  · rw [answered] at hfault
    exact absurd hfault (by simp)

/-- The call registers a class, or adds a definition that was made from it. -/
inductive Registration.Registers (c : SemanticClass) : Registration → Prop where
  | register (named : Option SemanticClass) : Registers c (.register (.ofClass c) named)
  | add {named : Option SemanticClass} {calls : Calls} {d : Definition}
      (made : (Definition.make (.ofClass c) named calls).1 = .ok d) : Registers c (.add d)

theorem Registration.Registers.describes {c : SemanticClass} {r : Registration}
    (h : r.Registers c) (answered : (r.perform ledger).1 = .ok d) : d.Describes c := by
  cases h with
  | register named =>
    rw [perform_register_fst] at answered
    exact (Definition.make_ofClass answered).1
  | add made =>
    obtain rfl := Except.ok.inj answered
    exact (Definition.make_ofClass made).1

end Registry

/-! ## Elements of a registered name -/

namespace Converter

open LiveConversion

variable {cv : Converter} {c : SemanticClass}

theorem build_of_lookup? (h : cv.registry.lookup? name = some d) (hd : d.Describes c) :
    cv.build (Text.lower name) =
      pure (.node (.element (.semantic c) (Text.lower c.tag) c.attributes [])) := by
  unfold build
  rw [Registry.lookup?_lower, h]
  simp only [hd.constructor, call_ofClass hd.declared]

/-- Elements of a name are converted to instances of a class, with its tag in small letters: to an
output tree, if the attributes and what is in them can be converted; and to a live element in any
store, if the conversion succeeds, as it does with classes alone and plain attributes. -/
structure MakesInstance (cv : Converter) (c : SemanticClass) (name : String) : Prop where
  tree : ∀ parent attributes cs session,
    ((cv.node parent (.element name attributes cs)).exec session).1 = do
      let texts ← copyAttributes c.attributes attributes
      let below ← if (ElementType.semantic c).ownsChildren
        then ((cv.nodes name cs).exec session).1 else .ok []
      pure (some (.element (.semantic c) (Text.lower c.tag) texts below))
  live : ∀ parent attributes cs w root w',
    (cv.liveNode parent (.element name attributes cs)).exec w = (.ok root, w') →
      ∃ r as, root = some r ∧
        w'.store.body? r = some (.element (.semantic c) (Text.lower c.tag) as)
  succeeds : cv.registry.OfClasses → ∀ parent attributes cs,
    (Markup.Node.element name attributes cs).isPlain = true →
      ∀ w, ∃ root w', (cv.liveNode parent (.element name attributes cs)).exec w = (.ok root, w')

theorem makesInstance_of_lookup? (h : cv.registry.lookup? name = some d) (hd : d.Describes c) :
    cv.MakesInstance c name where
  tree parent attributes cs session := by
    rw [node, build_of_lookup? h hd, pure_bind]
    simp only
    cases copyAttributes c.attributes attributes with
    | error fault => rfl
    | ok texts =>
      cases (ElementType.semantic c).ownsChildren with
      | false => rfl
      | true =>
        simp only [if_true, ← map_eq_pure_bind]
        rw [Conversion.exec_map]
        cases ((cv.nodes name cs).exec session).1 <;> rfl
  live parent attributes cs w root w' hrun := by
    obtain ⟨product, hproduct, hconverts⟩ := liveNode_element hrun
    rw [build_of_lookup? h hd] at hproduct
    obtain rfl := Except.ok.inj hproduct
    cases hconverts with
    | element htexts hbody => exact ⟨_, _, rfl, hbody⟩
    | other hleaf => exact absurd (hleaf _ rfl) (by simp [Tree.isElement])
  succeeds hr parent attributes cs hn := liveNode_succeeds hr parent hn

end Converter

/-! ## Elements in a container -/

namespace Store

variable {s : Store} {r : NodeId}

/-- Whatever is done to the store, what holds the node at any depth finds it under the tag. -/
def FoundUnder (s : Store) (r : NodeId) (tag : String) : Prop :=
  ∀ ops p, (s.after ops).AcyclicFrom p → (s.after ops).Below r p →
    r ∈ (s.after ops).elementsByTag p tag

theorem foundUnder_of_tag? (h : s.tag? r = some (Text.lower tag)) : s.FoundUnder r tag := by
  intro ops p hacyclic hbelow
  have htag := tag?_after h ops
  refine mem_elementsByTag.mpr ⟨(mem_descendants_iff hacyclic).mpr hbelow, ?_⟩
  unfold tag? at htag
  split at htag
  · rename_i type t as hbody
    exact ⟨type, t, as, hbody, .inr (Option.some.inj htag)⟩
  · exact absurd htag (by simp)

end Store

/-! ## Main statement -/

namespace Converter

variable {c : SemanticClass}

/-- Small letters are stable, so that all that puts a tag in small letters agrees on every spelling of
it. A class is registered, and no definition for its tag is added later. Then the tag of its definition
is that of the class in small letters; every spelling finds the definition, and elements of this name
are converted to instances of the class with this tag; and what holds such an instance finds it under
every spelling. Nor does the catalog tell spellings apart. -/
theorem spellings_agree {r : Registration} {rs : List Registration} (registers : r.Registers c)
    (answered : (r.perform ledger).1 = .ok d)
    (kept : ∀ e ∈ added (run (r.perform ledger).2 rs).1, e.isFor c.tag = false) :
    (∀ t, Text.lower (Text.lower t) = Text.lower t) ∧
    d.constructor = .ofClass c ∧ d.tag = Text.lower c.tag ∧
    (∀ name, Text.lower name = Text.lower c.tag →
      (run (r.perform ledger).2 rs).2.registry.lookup? name = some d ∧
      ∀ reportUnknown,
        MakesInstance ⟨(run (r.perform ledger).2 rs).2.registry, reportUnknown⟩ c name) ∧
    (∀ (s : Store) n as, s.body? n = some (.element (.semantic c) (Text.lower c.tag) as) →
      ∀ name, Text.lower name = Text.lower c.tag → s.FoundUnder n name) ∧
    ∀ t, Catalog.classify? (Text.lower t) = Catalog.classify? t := by
  have describes := registers.describes answered
  have hdtag : d.tag.isEmpty = false := by
    rw [describes.tag, Text.lower_isEmpty, describes.declared]
  refine ⟨Text.lower_lower, describes.constructor, describes.tag, fun name hname => ?_,
    fun s n as hbody name hname => ?_, classify?_lower⟩
  · have hfor : d.isFor name = true := by
      rw [Definition.isFor, describes.tag, Text.lower_lower, hname, beq_self_eq_true]
    have hothers : ∀ e ∈ added (run (r.perform ledger).2 rs).1, e.isFor name = false :=
      fun e he => by rw [Definition.isFor, hname]; exact kept e he
    have hfound := lookup?_of_kept hdtag answered hfor hothers
    exact ⟨hfound, fun reportUnknown => makesInstance_of_lookup? hfound describes⟩
  · refine Store.foundUnder_of_tag? ?_
    rw [Store.tag?, hbody, hname]

/-- A class whose tag has letters with unusual small forms: the Kelvin sign, the dotted capital `İ`,
and a sigma that ends a word. -/
def kiosk : SemanticClass :=
  ⟨"Kiosk", [], .container, "X-\u212aİOΣ", .block, [("role", .text "main")]⟩

/-- Its tag in small letters. -/
def kioskTag : String :=
  "x-ki\u0307oς"

/-- The registration of this class, and its definition. -/
def kioskCall : Registration :=
  .register (.ofClass kiosk) none

def kioskDefinition : Definition :=
  ⟨.ofClass kiosk, kiosk, Text.lower kiosk.tag, false⟩

/-- A new registry after this call and another one. -/
def kioskLedger : Ledger :=
  (run (kioskCall.perform (.initial [])).2 [.register (.ofClass badge) none]).2

theorem ofClasses_kioskLedger : kioskLedger.registry.OfClasses :=
  ofClasses_perform_register (ofClasses_perform_register .empty kiosk none) badge none

/-- An element of the class on its own, and what puts it into a division. -/
def kioskStore : Store :=
  (Store.empty.create (.element (.semantic kiosk) (Text.lower kiosk.tag) [])).2

def kioskMove : List Store.Operation :=
  [.create (.element (.standard .blockContainer) "div" []), .append 1 0]

theorem isForest_kioskMove : (kioskStore.after kioskMove).IsForest := by
  have created : (kioskStore.create (.element (.standard .blockContainer) "div" [])).2.IsForest :=
    (Store.isForest_empty.create _).create _
  exact created.appendChild_root (p := 1) (c := 0) (by decide) (by decide) (by decide) (by decide)

theorem spellings_agree_kiosk :
    kioskCall.Registers kiosk ∧ (kioskCall.perform (.initial [])).1 = .ok kioskDefinition ∧
      (∀ e ∈ added (run (kioskCall.perform (.initial [])).2 [.register (.ofClass badge) none]).1,
        e.isFor kiosk.tag = false) ∧
      kioskLedger.registry.lookup? kioskTag = some kioskDefinition ∧
      (∃ r as w', ((⟨kioskLedger.registry, true⟩ : Converter).liveNode none
          (.element kioskTag [] [])).exec ⟨.empty, .initial⟩ = (.ok (some r), w') ∧
        w'.store.body? r = some (.element (.semantic kiosk) (Text.lower kiosk.tag) as)) ∧
      0 ∈ (kioskStore.after kioskMove).elementsByTag 1 kiosk.tag ∧
      0 ∈ (kioskStore.after kioskMove).elementsByTag 1 kioskTag := by
  have registers : kioskCall.Registers kiosk := .register none
  have answered : (kioskCall.perform (.initial [])).1 = .ok kioskDefinition := rfl
  have hadded : added (run (kioskCall.perform (.initial [])).2
      [.register (.ofClass badge) none]).1 =
      [⟨.ofClass badge, badge, Text.lower badge.tag, true⟩] := rfl
  have kept : ∀ e ∈ added (run (kioskCall.perform (.initial [])).2
      [.register (.ofClass badge) none]).1, e.isFor kiosk.tag = false := by
    rw [hadded, List.forall_mem_singleton]
    decide +kernel
  obtain ⟨-, -, -, hname, hfound, -⟩ := spellings_agree registers answered kept
  have hledger : (run (kioskCall.perform (.initial [])).2
      [.register (.ofClass badge) none]).2 = kioskLedger := rfl
  rw [hledger] at hname
  have hclasses := ofClasses_kioskLedger
  have htag : Text.lower kioskTag = Text.lower kiosk.tag := by decide +kernel
  -- what is in the registry is not looked at from here on
  generalize kioskLedger.registry = registry at hname hclasses ⊢
  obtain ⟨hlookup, hmakes⟩ := hname kioskTag htag
  obtain ⟨root, w', hrun⟩ := (hmakes true).succeeds hclasses none [] [] rfl ⟨.empty, .initial⟩
  obtain ⟨r, as, rfl, hbody⟩ := (hmakes true).live _ _ _ _ _ _ hrun
  have hacyclic := isForest_kioskMove.acyclicFrom 1
  have hchild : 0 ∈ (kioskStore.after kioskMove).children 1 := by decide
  have hbelow : (kioskStore.after kioskMove).Below 0 1 := .single hchild
  exact ⟨registers, answered, kept, hlookup, ⟨r, as, w', hrun, hbody⟩,
    hfound kioskStore 0 [] rfl kiosk.tag rfl kioskMove 1 hacyclic hbelow,
    hfound kioskStore 0 [] rfl kioskTag htag kioskMove 1 hacyclic hbelow⟩

end Converter

end TypedMarkup
