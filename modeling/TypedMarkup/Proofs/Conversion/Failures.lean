import TypedMarkup.Proofs.Conversion.Survivors

/-!
# Conversions that fail

With a registry of element classes a conversion can fail in one way only: it comes to an element
with an attribute that has no text, which is a list with an item that is no text. What a conversion
gives does not depend on what has been converted before (`Conversion.Gives`), so that `node_gives`
says of each node on its own whether it fails or has an output, and `elements_gives` that several
elements fail together as soon as one of them does. `stumbles_iff` says where the reason for a
failure is found.
-/

namespace TypedMarkup

/-! ## What a conversion gives -/

namespace Conversion

variable {α β : Type}

/-- The conversion has this result, whatever has been converted before. -/
def Gives (c : Conversion α) (result : Except Fault α) : Prop :=
  ∀ session, (c.exec session).1 = result

theorem gives_pure (a : α) : (pure a : Conversion α).Gives (.ok a) := fun _ => rfl

theorem gives_throw (fault : Fault) : (throw fault : Conversion α).Gives (.error fault) :=
  fun _ => rfl

theorem Gives.of_exec {c : Conversion α} {result : Except Fault α} {left : Session → Session}
    (h : ∀ session, c.exec session = (result, left session)) : c.Gives result :=
  fun session => by rw [h]

theorem Gives.bind {c : Conversion α} {result : Except Fault α} {k : α → Conversion β}
    {next : α → Except Fault β} (hc : c.Gives result) (hk : ∀ a, (k a).Gives (next a)) :
    (c >>= k).Gives (result.bind next) := by
  intro session
  change ((ExceptT.bindCont k (c.exec session).1).run (c.exec session).2).1 = _
  rw [hc session]
  cases result with
  | error fault => rfl
  | ok a => exact hk a _

theorem Gives.unique {c : Conversion α} {result other : Except Fault α} (h : c.Gives result)
    (h' : c.Gives other) : result = other :=
  (h .initial).symm.trans (h' .initial)

end Conversion

namespace Markup.Node

/-- Whether the node is an element with an attribute that has no text. -/
def lacksText : Node → Bool
  | element _ attributes _ => !attributes.all fun a => a.2.hasText
  | string .. | foreign _ | absent => false

end Markup.Node

namespace Converter

variable {cv : Converter}

/-! ## Where a conversion fails -/

mutual

/-- Whether the conversion of a node comes to an attribute that has no text. -/
def stumbles (cv : Converter) : Markup.Node → Bool
  | .element name attributes cs =>
    (Markup.Node.element name attributes cs).lacksText ||
      (cv.typeOf name).ownsChildren && cv.anyStumbles cs
  | .string .. => false
  | .foreign _ => false
  | .absent => false

/-- Whether the conversion of one of the nodes does. -/
def anyStumbles (cv : Converter) : List Markup.Node → Bool
  | [] => false
  | n :: ns => cv.stumbles n || cv.anyStumbles ns

end

/-- The conversion of a node comes to an element with an attribute that has no text. -/
def FailsOn (cv : Converter) (n : Markup.Node) : Prop :=
  cv.ReachesSome (fun m => m.lacksText = true) n

theorem anyStumbles_eq_any (cv : Converter) (ns : List Markup.Node) :
    cv.anyStumbles ns = ns.any cv.stumbles := by
  induction ns with
  | nil => rfl
  | cons n ns ih => rw [anyStumbles, ih, List.any_cons]

/-- The reason for a failure is an element that the conversion comes to. -/
theorem stumbles_iff (hr : cv.registry.OfClasses) (n : Markup.Node) :
    cv.stumbles n = true ↔ cv.FailsOn n := by
  induction n using Markup.Node.induction with
  | step n ih =>
    cases n with
    | element name attributes cs =>
      rw [stumbles, Bool.or_eq_true, Bool.and_eq_true, ownsChildren_typeOf hr, Bool.not_eq_true',
        anyStumbles_eq_any, List.any_eq_true, FailsOn, reachesSome_element_iff]
      exact or_congr_right (and_congr_right fun _ =>
        exists_congr fun c => and_congr_right fun hc => ih c hc)
    | string | foreign | absent =>
      rw [stumbles, FailsOn, reachesSome_iff_of_not_isElement rfl, Markup.Node.lacksText]

/-! ## Results -/

open Conversion

mutual

/-- A node has its output unless the conversion stumbles on it, by induction on the node together
with the nodes in it. -/
theorem node_gives (hr : cv.registry.OfClasses) (parent : Option String) : (n : Markup.Node) →
    (cv.node parent n).Gives
      (if cv.stumbles n = true then .error .notText else .ok (cv.output parent n))
  | .element name attributes cs => by
    rw [node, build_lower hr, pure_bind, stumbles, output, Markup.Node.lacksText]
    simp only [copyAttributes_eq]
    cases attributes.all fun a => a.2.hasText with
    | false => exact gives_throw _
    | true =>
      cases (cv.typeOf name).ownsChildren with
      | false => exact gives_pure _
      | true =>
        have h := (nodes_gives hr name cs).bind fun below =>
          gives_pure (some (Tree.element (cv.typeOf name) (Text.lower name)
            (copied (cv.presetsOf name) attributes) below))
        revert h
        cases cv.anyStumbles cs <;> exact id
  | .string sort data => .of_exec (string_exec cv parent sort data)
  | .foreign typeName => by
    rw [node, output]
    exact (Gives.of_exec (report_exec typeName)).bind fun _ => gives_pure none
  | .absent => by
    rw [node, output]
    exact gives_pure none

theorem nodes_gives (hr : cv.registry.OfClasses) (parent : String) : (ns : List Markup.Node) →
    (cv.nodes parent ns).Gives
      (if cv.anyStumbles ns = true then .error .notText else .ok (cv.outputs parent ns))
  | [] => by
    rw [nodes, outputs]
    exact gives_pure []
  | n :: ns => by
    have h := (node_gives hr (some parent) n).bind fun tree =>
      (nodes_gives hr parent ns).bind fun trees => gives_pure (tree.toList ++ trees)
    rw [nodes, anyStumbles, outputs]
    revert h
    cases cv.stumbles n <;> cases cv.anyStumbles ns <;> exact id

end

/-- An element on its own has its output unless the conversion stumbles on it. -/
theorem element_gives (hr : cv.registry.OfClasses) {n : Markup.Node} (he : n.isElement = true) :
    (cv.element n).Gives
      (if cv.stumbles n = true then .error .notText else .ok (cv.output none n)) := by
  obtain ⟨name, attributes, cs, rfl⟩ := Markup.Node.exists_of_isElement he
  exact node_gives hr none _

/-- Several elements have their outputs unless the conversion stumbles on one of them: then none
has. -/
theorem elements_gives (hr : cv.registry.OfClasses) {ns : List Markup.Node}
    (hns : ∀ n ∈ ns, n.isElement = true) :
    (cv.elements ns).Gives
      (if ns.any cv.stumbles = true then .error .notText
        else .ok (ns.filterMap (cv.output none))) := by
  induction ns with
  | nil => exact gives_pure []
  | cons n ns ih =>
    obtain ⟨he, hns⟩ := List.forall_mem_cons.mp hns
    have h := (element_gives hr he).bind fun tree =>
      (ih hns).bind fun trees => gives_pure (tree.toList ++ trees)
    rw [elements, List.any_cons, List.filterMap_cons]
    revert h
    cases cv.stumbles n <;> cases ns.any cv.stumbles <;> cases cv.output none n <;> exact id

end Converter

end TypedMarkup
