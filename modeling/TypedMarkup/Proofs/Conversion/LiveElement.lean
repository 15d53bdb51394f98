import TypedMarkup.Proofs.Conversion.Live
import TypedMarkup.Proofs.Store.Bodies

/-!
# Live elements

What is certain of a live conversion of an element with any registry, whatever its constructors give
and wherever it fails. It sets attributes on nodes that it has made and on no others, so that the
nodes that were there keep their bodies (`liveNode_leaves`, by induction on the node together with
the nodes in it). So an element still has the type, the tag and the attributes that it got before its
children were converted: `liveNode_element` says which, if the conversion succeeds.
-/

namespace TypedMarkup

namespace Store

variable {s t u : Store} {lo n : NodeId}

/-- `t` has the nodes of `s`, and those with numbers below `lo` have their bodies. -/
structure KeepsBelow (lo : NodeId) (s t : Store) : Prop where
  size : s.size ≤ t.size
  body? : ∀ x < lo, t.body? x = s.body? x

theorem KeepsBelow.refl (lo : NodeId) (s : Store) : KeepsBelow lo s s :=
  ⟨Nat.le_refl _, fun _ _ => rfl⟩

theorem KeepsBelow.trans (h : KeepsBelow lo s t) (k : KeepsBelow lo t u) : KeepsBelow lo s u :=
  ⟨Nat.le_trans h.size k.size, fun x hx => (k.body? x hx).trans (h.body? x hx)⟩

theorem SameBodies.keepsBelow (h : SameBodies s t) (lo : NodeId) : KeepsBelow lo s t :=
  ⟨Nat.le_of_eq h.size.symm, fun x _ => h.body? x⟩

theorem keepsBelow_create (hlo : lo ≤ s.size) (body : Body) :
    KeepsBelow lo s (s.create body).2 where
  size := by rw [size_create]; exact Nat.le_succ _
  body? _ hx := by rw [body?_create, if_neg (Nat.ne_of_lt (Nat.lt_of_lt_of_le hx hlo))]

theorem keepsBelow_setAttribute (hn : lo ≤ n) (s : Store) (name : String) (v : Value) :
    KeepsBelow lo s (s.setAttribute n name v) where
  size := Nat.le_of_eq (sameLinks_modifyAttributes s n _).size.symm
  body? _ hx := body?_modifyAttributes_of_ne (Nat.ne_of_lt (Nat.lt_of_lt_of_le hx hn)) _

theorem body?_setAttribute {type : ElementType} {tag : String} {as : Attributes}
    (h : s.body? n = some (.element type tag as)) (name : String) (v : Value) :
    (s.setAttribute n name v).body? n =
      some (.element type tag (as.set (some n) name v.attributeText)) := by
  simp only [setAttribute, modifyAttributes, h]
  rw [body?_setBody, if_pos rfl, h]
  rfl

end Store

open Store

namespace LiveConversion

variable {α β : Type} {lo : NodeId}

/-! ## Nodes that were there -/

/-- In a store with `lo` nodes or more, the conversion leaves the nodes below number `lo` their
bodies, also where it fails; what it gives has a property. -/
def Leaves (lo : NodeId) (c : LiveConversion α) (gives : α → Prop) : Prop :=
  ∀ w, lo ≤ w.store.size →
    KeepsBelow lo w.store (c.exec w).2.store ∧ ∀ a, (c.exec w).1 = .ok a → gives a

/-- What it leaves where it succeeds. -/
theorem Leaves.of_ok {c : LiveConversion α} {gives : α → Prop} (h : Leaves lo c gives)
    {w w' : Workshop} {a : α} (hlo : lo ≤ w.store.size) (hc : c.exec w = (.ok a, w')) :
    KeepsBelow lo w.store w'.store ∧ gives a := by
  obtain ⟨hkeep, hgives⟩ := h w hlo
  rw [hc] at hkeep hgives
  exact ⟨hkeep, hgives a rfl⟩

theorem leaves_pure {gives : α → Prop} {a : α} (h : gives a) :
    Leaves lo (pure a : LiveConversion α) gives :=
  fun w _ => ⟨.refl lo w.store, fun _ ha => Except.ok.inj ha ▸ h⟩

/-- A fault is no result. -/
theorem throw_exec_ne_ok (fault : Fault) (w : Workshop) (a : α) :
    ((throw fault : LiveConversion α).exec w).1 ≠ .ok a := by
  intro h
  cases h

theorem leaves_throw (fault : Fault) (gives : α → Prop) :
    Leaves lo (throw fault : LiveConversion α) gives :=
  fun w _ => ⟨.refl lo w.store, fun a ha => absurd ha (throw_exec_ne_ok fault w a)⟩

theorem Leaves.bind {c : LiveConversion α} {k : α → LiveConversion β} {gives : α → Prop}
    {gives' : β → Prop} (hc : Leaves lo c gives) (hk : ∀ a, gives a → Leaves lo (k a) gives') :
    Leaves lo (c >>= k) gives' := by
  intro w hlo
  obtain ⟨hkeep, hgives⟩ := hc w hlo
  change KeepsBelow lo w.store ((ExceptT.bindCont k (c.exec w).1).run (c.exec w).2).2.store ∧
    ∀ b, ((ExceptT.bindCont k (c.exec w).1).run (c.exec w).2).1 = .ok b → gives' b
  cases hr : (c.exec w).1 with
  | error fault => exact ⟨hkeep, fun b hb => absurd hb (by simp [ExceptT.bindCont])⟩
  | ok a =>
    obtain ⟨hkeep', hgives'⟩ := hk a (hgives a hr) _ (Nat.le_trans hlo hkeep.size)
    exact ⟨hkeep.trans hkeep', hgives'⟩

theorem leaves_get : Leaves lo (get : LiveConversion Workshop) fun _ => True :=
  fun w _ => ⟨.refl lo w.store, fun _ _ => trivial⟩

theorem ofConversion_exec_eq (c : Conversion α) (w : Workshop) :
    (ofConversion c).exec w = ((c.exec w.session).1, ⟨w.store, (c.exec w.session).2⟩) := by
  rw [ofConversion, exec_bind_ok (get_exec w)]
  rw [exec_bind_ok (set_exec w _)]
  cases (c.exec w.session).1 <;> rfl

theorem leaves_ofConversion (c : Conversion α) : Leaves lo (ofConversion c) fun _ => True := by
  intro w _
  rw [ofConversion_exec_eq]
  exact ⟨.refl lo w.store, fun _ _ => trivial⟩

theorem perform_exec_store (operation : Store → Outcome) (w : Workshop) :
    ((perform operation).exec w).2.store = (operation w.store).store := by
  rw [perform, exec_bind_ok (get_exec w), exec_bind_ok (set_exec w _)]
  cases (operation w.store).fault <;> rfl

theorem leaves_perform {operation : Store → Outcome}
    (h : ∀ s, KeepsBelow lo s (operation s).store) :
    Leaves lo (perform operation) fun _ => True := by
  intro w _
  rw [perform_exec_store]
  exact ⟨h w.store, fun _ _ => trivial⟩

theorem leaves_create (body : Body) : Leaves lo (create body) fun n => lo ≤ n :=
  fun _ hlo => ⟨keepsBelow_create hlo body, fun _ hn => Except.ok.inj hn ▸ hlo⟩

/-- What has gone before, when a conversion has succeeded. -/
theorem exec_bind_eq_ok {c : LiveConversion α} {k : α → LiveConversion β} {w w' : Workshop} {b : β}
    (h : (c >>= k).exec w = (.ok b, w')) :
    ∃ a v, c.exec w = (.ok a, v) ∧ (k a).exec v = (.ok b, w') := by
  change (ExceptT.bindCont k (c.exec w).1).run (c.exec w).2 = _ at h
  cases hr : (c.exec w).1 with
  | error fault => rw [hr] at h; exact absurd (congrArg Prod.fst h) (throw_exec_ne_ok fault _ b)
  | ok a =>
    rw [hr] at h
    exact ⟨a, _, Prod.ext hr rfl, h⟩

end LiveConversion

namespace Converter

open LiveConversion

variable {cv : Converter} {lo n : NodeId}

theorem leaves_setLive (hn : lo ≤ n) (name text : String) :
    Leaves lo (setLive n name text) fun _ => True := by
  refine leaves_perform fun s => ?_
  split
  · exact keepsBelow_setAttribute hn s name _
  · exact .refl lo s

theorem leaves_copyLive (hn : lo ≤ n) (attributes : List (String × Value)) :
    Leaves lo (copyLive n attributes) fun _ => True := by
  induction attributes with
  | nil => exact leaves_pure trivial
  | cons a attributes ih =>
    rw [copyLive]
    split
    · exact leaves_throw _ _
    · exact (leaves_setLive hn _ _).bind fun _ _ => ih

mutual

/-- To plant a tree leaves the nodes that were there their bodies. -/
theorem leaves_plant : (tree : Tree) → Leaves lo (plant tree) fun n => lo ≤ n
  | .text _ | .comment _ | .rawData _ => leaves_create _
  | .element _ _ _ cs =>
    (leaves_create _).bind fun n hn => (leaves_copyLive hn _).bind fun _ _ =>
      (leaves_plantIn n cs).bind fun _ _ => leaves_pure hn

theorem leaves_plantIn (p : NodeId) : (ts : List Tree) →
    Leaves lo (plantIn p ts) fun _ => True
  | [] => leaves_pure trivial
  | t :: ts =>
    (leaves_plant t).bind fun c _ =>
      (leaves_perform fun s => (appendChild_sameBodies s p c).keepsBelow lo).bind
        fun _ _ => leaves_plantIn p ts

end

theorem leaves_plantGiven (given : Conversion (Option Tree)) :
    Leaves lo (plantGiven given) fun _ => True := by
  refine (leaves_ofConversion given).bind fun out _ => ?_
  cases out with
  | none => exact leaves_pure trivial
  | some tree => exact (leaves_plant tree).bind fun _ _ => leaves_pure trivial

/-- The last step for an element: what is converted into it, if it owns children. -/
theorem leaves_below {below : LiveConversion Unit} (h : Leaves lo below fun _ => True) (n : NodeId)
    {gives : Option NodeId → Prop} (hn : gives (some n)) :
    Leaves lo (get >>= fun w => if w.store.isContainer n = true then below >>= fun _ =>
      pure (some n) else pure (some n)) gives := by
  refine leaves_get.bind fun w _ => ?_
  split
  · exact h.bind fun _ _ => leaves_pure hn
  · exact leaves_pure hn

mutual

/-- A live conversion leaves the nodes that were there their bodies. -/
theorem liveNode_leaves (cv : Converter) (parent : Option String) : (n : Markup.Node) →
    Leaves lo (cv.liveNode parent n) fun _ => True
  | .absent => leaves_pure trivial
  | .foreign typeName => (leaves_ofConversion _).bind fun _ _ => leaves_pure trivial
  | .string sort data => by
    rw [liveNode]
    exact leaves_plantGiven _
  | .element name attributes cs => by
    rw [liveNode]
    refine (leaves_ofConversion _).bind fun product _ => ?_
    cases product with
    | value v => cases v <;> exact leaves_plantGiven _
    | node tree =>
      exact (leaves_plant tree).bind fun n hn => (leaves_copyLive hn attributes).bind fun _ _ =>
        leaves_below (liveNodes_leaves cv name n cs) n trivial

theorem liveNodes_leaves (cv : Converter) (name : String) (p : NodeId) : (ns : List Markup.Node) →
    Leaves lo (cv.liveNodes name p ns) fun _ => True
  | [] => leaves_pure trivial
  | n :: ns => by
    rw [liveNodes]
    refine (liveNode_leaves cv (some name) n).bind fun root _ => ?_
    cases root with
    | none => exact liveNodes_leaves cv name p ns
    | some c =>
      exact (leaves_perform fun s => (appendChild_sameBodies s p c).keepsBelow lo).bind
        fun _ _ => liveNodes_leaves cv name p ns

end

/-! ## New elements -/

section New

variable {type : ElementType} {tag : String} {attributes : List (String × Value)}
  {w w' : Workshop}

/-- Where attributes could be set in turn on an element, they have texts and it has them. -/
theorem copyLive_ok {as : Attributes} (hn : w.store.body? n = some (.element type tag as))
    (h : (copyLive n attributes).exec w = (.ok (), w')) :
    attributes.all (fun a => a.2.hasText) = true ∧
      w'.store.body? n = some (.element type tag (filled n as attributes)) := by
  induction attributes generalizing w as with
  | nil =>
    obtain rfl : w = w' := congrArg Prod.snd h
    exact ⟨rfl, hn⟩
  | cons a attributes ih =>
    rw [copyLive, attributeText_eq] at h
    cases htext : a.2.hasText with
    | false =>
      rw [htext] at h
      exact absurd (congrArg Prod.fst h) (throw_exec_ne_ok .notText _ ())
    | true =>
      rw [htext, if_pos rfl] at h
      have helement : w.store.isElement n = true := by rw [isElement, hn]
      have hset : (setLive n a.1 a.2.outputText).exec w =
          (.ok (), ⟨w.store.setAttribute n a.1 (.text a.2.outputText), w.session⟩) :=
        perform_exec (if_pos helement) w.session
      have hrest := (exec_bind_ok hset _).symm.trans h
      obtain ⟨htexts, hbody⟩ := ih (body?_setAttribute hn a.1 (.text a.2.outputText)) hrest
      exact ⟨by rw [List.all_cons, htext, htexts]; rfl, hbody⟩

/-- No attribute can be set on what is no element. -/
theorem eq_nil_of_copyLive_ok (hn : w.store.isElement n = false)
    (h : (copyLive n attributes).exec w = (.ok (), w')) : attributes = [] := by
  cases attributes with
  | nil => rfl
  | cons a attributes =>
    rw [copyLive, attributeText_eq] at h
    cases htext : a.2.hasText with
    | false =>
      rw [htext] at h
      exact absurd (congrArg Prod.fst h) (throw_exec_ne_ok .notText _ ())
    | true =>
      rw [htext, if_pos rfl] at h
      obtain ⟨_, v, hset, -⟩ := exec_bind_eq_ok h
      rw [setLive, perform, exec_bind_ok (get_exec w), hn, if_neg Bool.false_ne_true,
        exec_bind_ok (set_exec w _)] at hset
      exact absurd (congrArg Prod.fst hset) (throw_exec_ne_ok .noSuchMember _ _)

/-- What is no element is planted as a node that is none. -/
theorem plant_leaf_exec {tree : Tree} (hleaf : tree.isElement = false) (w : Workshop) :
    ∃ v n, (plant tree).exec w = (.ok n, v) ∧ v.store.isElement n = false := by
  have hbody (body : Body) : (w.store.create body).2.body? w.store.size = some body := by
    rw [body?_create, if_pos rfl]
  cases tree with
  | element => exact absurd hleaf (by simp [Tree.isElement])
  | text data | comment data | rawData data =>
    exact ⟨_, _, create_exec _ w.store w.session, by rw [isElement, hbody]⟩

/-- An element that has been planted is the first new node, with its attributes; what is planted in
it leaves it its body. -/
theorem plant_element_ok {presets : List (String × String)} {cs : List Tree}
    (h : (plant (.element type tag presets cs)).exec w = (.ok n, w')) :
    n = w.store.size ∧ w'.store.body? n = some (.element type tag
      (filled n [] (presets.map fun a => (a.1, .text a.2)))) := by
  rw [plant_element_exec] at h
  have hplanted : Leaves (w.store.size + 1) (plantIn w.store.size cs >>= fun _ =>
      pure w.store.size) fun root => root = w.store.size :=
    (leaves_plantIn w.store.size cs).bind fun _ _ => leaves_pure rfl
  obtain ⟨hkept, rfl⟩ := hplanted.of_ok (Nat.le_of_eq (size_create _).symm) h
  refine ⟨rfl, ?_⟩
  rw [hkept.body? _ (Nat.lt_succ_self _), body?_create, if_pos rfl]

theorem eq_nil_of_leaf_ok {given : Except Fault (Option Tree)} {out : Option Tree}
    {session : Session} (h : ((leaf attributes given).exec session).1 = .ok out) :
    attributes = [] := by
  cases attributes with
  | nil => rfl
  | cons a attributes =>
    have hfault : ∃ fault, copyFault? (a :: attributes) = some fault := by
      rw [copyFault?]
      split <;> exact ⟨_, rfl⟩
    obtain ⟨fault, hfault⟩ := hfault
    unfold leaf at h
    rw [hfault] at h
    have hthrow : ((throw fault : Conversion (Option Tree)).exec session).1 = .error fault := rfl
    exact absurd (hthrow.symm.trans h) (by simp)

theorem eq_nil_of_plantGiven_leaf_ok {given : Except Fault (Option Tree)} {root : Option NodeId}
    (h : (plantGiven (leaf attributes given)).exec w = (.ok root, w')) : attributes = [] := by
  obtain ⟨out, v, hleaf, -⟩ := exec_bind_eq_ok h
  rw [ofConversion_exec_eq] at hleaf
  exact eq_nil_of_leaf_ok (congrArg Prod.fst hleaf)

/-- What a live conversion makes of an element, from the product that is built for it: if that is an
element, the node `r` is of its type and has its tag, and has the attributes of the input set in turn
on its own; they all have texts. Nothing else can be given any attributes. -/
inductive ConvertsAt (attributes : List (String × Value)) (r : NodeId) (s : Store) :
    Product → Option NodeId → Prop where
  | element {type : ElementType} {tag : String} {presets : List (String × String)}
      {below : List Tree} (texts : attributes.all (fun a => a.2.hasText) = true)
      (body? : s.body? r = some (.element type tag
        (filled r (filled r [] (presets.map fun a => (a.1, .text a.2))) attributes))) :
      ConvertsAt attributes r s (.node (.element type tag presets below)) (some r)
  | other {product : Product} {root : Option NodeId}
      (leaf : ∀ tree, product = .node tree → tree.isElement = false) (bare : attributes = []) :
      ConvertsAt attributes r s product root

/-- A live conversion of an element that succeeds, with any registry. -/
theorem liveNode_element {name : String} {parent : Option String} {cs : List Markup.Node}
    {root : Option NodeId}
    (h : (cv.liveNode parent (.element name attributes cs)).exec w = (.ok root, w')) :
    ∃ product, ((cv.build (Text.lower name)).exec w.session).1 = .ok product ∧
      ConvertsAt attributes w.store.size w'.store product root := by
  rw [liveNode] at h
  obtain ⟨product, v, hbuild, h⟩ := exec_bind_eq_ok h
  rw [ofConversion_exec_eq] at hbuild
  obtain ⟨hproduct, rfl⟩ := Prod.mk.inj hbuild
  refine ⟨product, hproduct, ?_⟩
  cases product with
  | value value =>
    refine .other (fun _ ht => absurd ht (by simp)) ?_
    cases value <;> exact eq_nil_of_plantGiven_leaf_ok h
  | node tree =>
    cases htree : tree.isElement with
    | false =>
      obtain ⟨u, n, hplant, hn⟩ := plant_leaf_exec htree ⟨w.store, _⟩
      obtain ⟨_, _, hcopy, -⟩ := exec_bind_eq_ok ((exec_bind_ok hplant _).symm.trans h)
      exact .other (fun _ ht => Product.node.inj ht ▸ htree) (eq_nil_of_copyLive_ok hn hcopy)
    | true =>
      cases tree with
      | text | comment | rawData => exact absurd htree Bool.false_ne_true
      | element type tag presets below =>
        obtain ⟨n, u, hplant, h⟩ := exec_bind_eq_ok h
        obtain ⟨rfl, hplanted⟩ := plant_element_ok hplant
        obtain ⟨_, v, hcopy, hrest⟩ := exec_bind_eq_ok h
        obtain ⟨htexts, hbody⟩ := copyLive_ok hplanted hcopy
        -- what is converted into the element leaves it its body
        have hnew : w.store.size < v.store.size := isSome_body?_iff.mp (by rw [hbody]; rfl)
        have hbelow : Leaves v.store.size _ fun root => root = some w.store.size :=
          leaves_below (liveNodes_leaves cv name w.store.size cs) w.store.size rfl
        obtain ⟨hkept, rfl⟩ := hbelow.of_ok (Nat.le_refl _) hrest
        exact .element htexts ((hkept.body? _ hnew).trans hbody)

end New

/-- With classes alone and plain attributes a live conversion succeeds, whatever it starts from. -/
theorem liveNode_succeeds (hr : cv.registry.OfClasses) (parent : Option String) {n : Markup.Node}
    (hn : n.isPlain = true) (w : Workshop) :
    ∃ root w', (cv.liveNode parent n).exec w = (.ok root, w') := by
  obtain ⟨root, t, hrun, -⟩ := liveNode_exec hr parent n hn w.store w.session
  exact ⟨root, _, hrun⟩

end Converter

end TypedMarkup
