import TypedMarkup.Conversion.Live
import TypedMarkup.Proofs.Attributes
import TypedMarkup.Proofs.Conversion.Correspondence
import TypedMarkup.Proofs.Store.Growth
import TypedMarkup.Proofs.Store.Run
import Mathlib.Data.List.Nodup

/-!
# Live conversions

A live conversion does what the conversion into output trees does. With a registry of element
classes and plain attribute values it cannot fail: no child is ever refused and no node is without
attributes. It makes new nodes only, and these hold the output tree.

* `plant_exec`, `copyLive_exec`: a new element, and what setting its attributes makes of it;
* `liveNode_exec`: the run of a live conversion, by induction on the node, with `Filling` as the
  invariant of the loop over the children;
* `live_conversion`: what holds of the new nodes.
-/

namespace TypedMarkup

/-! ## Attributes of new elements -/

namespace Attributes

/-- All attributes belong to the same owner. -/
def OwnedBy (owner : Option NodeId) (as : Attributes) : Prop :=
  ∀ a ∈ as, a.owner = owner

theorem OwnedBy.set {owner : Option NodeId} {as : Attributes} (h : as.OwnedBy owner)
    (name text : String) : (as.set owner name text).OwnedBy owner := by
  induction as with
  | nil => intro a ha; rw [List.mem_singleton.mp ha]
  | cons b as ih =>
    have hb : b.owner = owner := h b List.mem_cons_self
    have has : OwnedBy owner as := fun a ha => h a (List.mem_cons_of_mem b ha)
    rw [Attributes.set]
    intro a ha
    split at ha
    · rcases List.mem_cons.mp ha with rfl | ha
      · exact hb
      · exact has a ha
    · rcases List.mem_cons.mp ha with rfl | ha
      · exact hb
      · exact ih has a ha

end Attributes

namespace Store

/-- Giving the newest node another body: it is as if it had been made with it. -/
theorem setBody_create (s : Store) (old new : Body) :
    (s.create old).2.setBody s.size new = (s.create new).2 := by
  refine congrArg Store.mk (Array.ext (by simp [create]) fun i _ hi => ?_)
  rw [Array.size_push] at hi
  simp only [create, size, Array.getElem_modify, Array.getElem_push]
  rcases Nat.eq_or_lt_of_le (Nat.lt_succ_iff.mp hi) with h | h
  · simp [h]
  · simp [h, Nat.ne_of_gt h]

/-- Setting an attribute of the newest node. -/
theorem setAttribute_create (s : Store) (type : ElementType) (tag : String) (as : Attributes)
    (name text : String) :
    (s.create (.element type tag as)).2.setAttribute s.size name (.text text) =
      (s.create (.element type tag (as.set (some s.size) name text))).2 := by
  have hbody : (s.create (.element type tag as)).2.body? s.size = some (.element type tag as) := by
    rw [body?_create, if_pos rfl]
  simp only [setAttribute, modifyAttributes, hbody, setBody_create]
  rfl

theorem isElement_create (s : Store) (type : ElementType) (tag : String) (as : Attributes) :
    (s.create (.element type tag as)).2.isElement s.size = true := by
  rw [isElement, body?_create, if_pos rfl]

theorem isContainer_create_self (s : Store) (body : Body) :
    (s.create body).2.isContainer s.size = body.ownsChildren := by
  rw [isContainer, body?_create, if_pos rfl]

end Store

/-! ## Running live conversions -/

namespace LiveConversion

variable {α β : Type}

theorem exec_pure (a : α) (w : Workshop) : (pure a : LiveConversion α).exec w = (.ok a, w) := rfl

theorem exec_bind_ok {c : LiveConversion α} {a : α} {w w' : Workshop}
    (h : c.exec w = (.ok a, w')) (k : α → LiveConversion β) :
    (c >>= k).exec w = (k a).exec w' := by
  change (ExceptT.bindCont k (c.exec w).1).run (c.exec w).2 = _
  rw [h]
  rfl

theorem get_exec (w : Workshop) : (get : LiveConversion Workshop).exec w = (.ok w, w) := rfl

theorem set_exec (w w' : Workshop) : (set w' : LiveConversion PUnit).exec w = (.ok ⟨⟩, w') := rfl

theorem ofConversion_exec {c : Conversion α} {a : α} {session session' : Session}
    (h : c.exec session = (.ok a, session')) (s : Store) :
    (ofConversion c).exec ⟨s, session⟩ = (.ok a, ⟨s, session'⟩) := by
  rw [ofConversion, exec_bind_ok (get_exec ⟨s, session⟩)]
  simp only [h]
  rw [exec_bind_ok (set_exec ⟨s, session⟩ ⟨s, session'⟩)]
  rfl

theorem perform_exec {operation : Store → Outcome} {s t : Store} (h : operation s = ⟨t, none⟩)
    (session : Session) : (perform operation).exec ⟨s, session⟩ = (.ok (), ⟨t, session⟩) := by
  rw [perform, exec_bind_ok (get_exec ⟨s, session⟩)]
  simp only [h]
  rw [exec_bind_ok (set_exec ⟨s, session⟩ ⟨t, session⟩)]
  rfl

theorem create_exec (body : Body) (s : Store) (session : Session) :
    (create body).exec ⟨s, session⟩ = (.ok s.size, ⟨(s.create body).2, session⟩) := rfl

end LiveConversion

namespace Converter

open LiveConversion

variable {cv : Converter}

/-- The attributes of a new element after those of the input have been set in turn. -/
def filled (owner : NodeId) (as : Attributes) (attributes : List (String × Value)) : Attributes :=
  attributes.foldl (fun as a => as.set (some owner) a.1 a.2.outputText) as

theorem pairs_filled (owner : NodeId) (as : Attributes) (attributes : List (String × Value)) :
    (filled owner as attributes).pairs = copied as.pairs attributes := by
  induction attributes generalizing as with
  | nil => rfl
  | cons a attributes ih =>
    rw [filled, List.foldl_cons, ← filled, ih, Attributes.pairs_set]
    rfl

theorem ownedBy_filled {owner : NodeId} {as : Attributes} (h : as.OwnedBy (some owner))
    (attributes : List (String × Value)) : (filled owner as attributes).OwnedBy (some owner) := by
  induction attributes generalizing as with
  | nil => exact h
  | cons a attributes ih => exact ih (h.set _ _)

/-- Plain attributes can be set on a new element, which belongs to its attributes. -/
theorem copyLive_exec (s : Store) (type : ElementType) (tag : String)
    {attributes : List (String × Value)} (h : attributes.all (fun a => a.2.isPlain) = true)
    (as : Attributes) (session : Session) :
    (copyLive s.size attributes).exec ⟨(s.create (.element type tag as)).2, session⟩ =
      (.ok (), ⟨(s.create (.element type tag (filled s.size as attributes))).2, session⟩) := by
  induction attributes generalizing as with
  | nil => rfl
  | cons a attributes ih =>
    rw [List.all_cons, Bool.and_eq_true] at h
    have hset : (setLive s.size a.1 a.2.outputText).exec
        ⟨(s.create (.element type tag as)).2, session⟩ = (.ok (),
          ⟨(s.create (.element type tag (as.set (some s.size) a.1 a.2.outputText))).2, session⟩) := by
      refine perform_exec ?_ session
      rw [if_pos (Store.isElement_create s type tag as), Store.setAttribute_create]
    rw [copyLive, attributeText_of_isPlain h.1]
    simp only
    rw [exec_bind_ok hset, ih h.2]
    rfl

/-- An element is planted by setting its attributes in turn on a new one without any, and then by
planting what is in it. -/
theorem plant_element_exec (s : Store) (type : ElementType) (tag : String)
    (presets : List (String × String)) (cs : List Tree) (session : Session) :
    (plant (.element type tag presets cs)).exec ⟨s, session⟩ =
      (plantIn s.size cs >>= fun _ => pure s.size).exec ⟨(s.create (.element type tag
        (filled s.size [] (presets.map fun a => (a.1, .text a.2))))).2, session⟩ := by
  have hplain : (presets.map fun a => (a.1, Value.text a.2)).all (fun a => a.2.isPlain) = true := by
    simp [Value.isPlain]
  rw [plant, exec_bind_ok (create_exec _ s session),
    exec_bind_ok (copyLive_exec s type tag hplain [] session)]

/-- A new element without children starts with its own attributes. -/
theorem plant_exec (s : Store) (type : ElementType) (tag : String)
    {presets : List (String × String)} (h : (Entries.names presets).Nodup) (session : Session) :
    ∃ as, as.pairs = presets ∧ as.OwnedBy (some s.size) ∧
      (plant (.element type tag presets [])).exec ⟨s, session⟩ =
        (.ok s.size, ⟨(s.create (.element type tag as)).2, session⟩) := by
  have hempty : Attributes.OwnedBy (some s.size) [] := fun a ha => absurd ha List.not_mem_nil
  refine ⟨_, ?_, ownedBy_filled hempty _, plant_element_exec s type tag presets [] session⟩
  have hcopied : copied [] (presets.map fun a => (a.1, Value.text a.2)) =
      Entries.putAll [] presets := List.foldl_map
  rw [pairs_filled, Attributes.pairs, List.map_nil, hcopied]
  exact Entries.putAll_of_names_prefix h List.nil_prefix

/-! ## Nodes -/

open Store

/-- What a live conversion leaves of a store: nothing new if there is no output, and else the newest
nodes are a tree that holds it. -/
inductive Planted (s : Store) : Option Tree → Option NodeId → Store → Prop where
  | nothing : Planted s none none s
  | tree {tree : Tree} {t : Store} (grown : Grown s t) (new : TreeFrom s.size t)
      (holds : Holds t s.size tree) : Planted s (some tree) (some s.size) t

/-- A leaf is planted as a new node on its own. -/
theorem planted_create (s : Store) {tree : Tree} {body : Body}
    (hleaf : ∀ type tag as, body ≠ .element type tag as)
    (holds : Holds (s.create body).2 s.size tree) :
    Planted s (some tree) (some s.size) (s.create body).2 :=
  .tree (.create s body) (treeFrom_create s fun type tag as h => absurd h (hleaf type tag as)) holds

/-- An element that has got all its children is planted. -/
theorem planted_of_filling {s t : Store} {type : ElementType} {tag : String} {as : Attributes}
    {ts : List Tree} (h : Filling s (.element type tag as) ts t) :
    Planted s (some (.element type tag as.pairs ts)) (some s.size) t :=
  .tree h.grown h.tree ⟨⟨as, h.body?, rfl⟩, h.holds⟩

/-- What is no element is planted as a leaf. -/
theorem plantGiven_exec {given : Conversion (Option Tree)} {out : Option Tree}
    {session session' : Session} (h : given.exec session = (.ok out, session'))
    (hleaf : ∀ tree, out = some tree → tree.isElement = false) (s : Store) :
    ∃ root t, (plantGiven given).exec ⟨s, session⟩ = (.ok root, ⟨t, session'⟩) ∧
      Planted s out root t := by
  rw [plantGiven, exec_bind_ok (ofConversion_exec h s)]
  have hbody (body : Body) : (s.create body).2.body? s.size = some body := by
    rw [body?_create, if_pos rfl]
  cases out with
  | none => exact ⟨none, s, rfl, .nothing⟩
  | some tree =>
    cases tree with
    | element type tag attributes cs => exact absurd (hleaf _ rfl) (by simp [Tree.isElement])
    | text data => exact ⟨_, _, rfl, planted_create s (by simp) (hbody (.text data))⟩
    | comment data => exact ⟨_, _, rfl, planted_create s (by simp) (hbody (.comment data))⟩
    | rawData data => exact ⟨_, _, rfl, planted_create s (by simp) (hbody (.rawData data))⟩

theorem isElement_of_stringOutput {parent : Option String} {sort : Markup.StringSort}
    {data : String} {tree : Tree} (h : stringOutput parent sort data = some tree) :
    tree.isElement = false := by
  unfold stringOutput at h
  split at h
  · split at h
    · exact absurd h (by simp)
    · rw [← Option.some.inj h]; rfl
  · rw [← Option.some.inj h]; rfl
  · split at h
    · exact absurd h (by simp)
    · rw [← Option.some.inj h]; rfl
  all_goals exact absurd h (by simp)

mutual

/-- A live conversion leaves the output of a node as a tree of new nodes, and reports what the
conversion into output trees reports; by induction on the node together with the nodes in it. -/
theorem liveNode_exec (hr : cv.registry.OfClasses) (parent : Option String) :
    (n : Markup.Node) → n.isPlain = true → (s : Store) → (session : Session) →
      ∃ root t, (cv.liveNode parent n).exec ⟨s, session⟩ =
          (.ok root, ⟨t, session.note cv (cv.skipped parent n)⟩) ∧
        Planted s (cv.output parent n) root t
  | .absent, _, s, session => by
    rw [skipped, Session.note_nil]
    exact ⟨none, s, rfl, .nothing⟩
  | .foreign typeName, _, s, session => by
    refine ⟨none, s, ?_, .nothing⟩
    rw [liveNode, exec_bind_ok (ofConversion_exec (report_exec typeName session) s)]
    rfl
  | .string sort data, _, s, session => by
    rw [liveNode, skipped]
    exact plantGiven_exec (string_exec cv parent sort data session)
      (fun _ h => isElement_of_stringOutput h) s
  | .element name attributes cs, hn, s, session => by
    rw [Markup.Node.isPlain, Bool.and_eq_true] at hn
    obtain ⟨as, hpairs, howned, hplant⟩ :=
      plant_exec s (cv.typeOf name) (Text.lower name) (cv.nodup_names_presetsOf name) session
    rw [liveNode, build_lower hr, exec_bind_ok (ofConversion_exec (Conversion.exec_pure _ session) s)]
    simp only
    rw [exec_bind_ok hplant, exec_bind_ok (copyLive_exec s _ _ hn.1 as session)]
    -- the element is there with all its attributes, and its children are still to come
    let body : Body := .element (cv.typeOf name) (Text.lower name) (filled s.size as attributes)
    have hfilling : Filling s body [] (s.create body).2 := filling_create s fun _ _ bs e => by
      rw [← (Body.element.inj e).2.2]
      exact ownedBy_filled howned attributes
    rw [exec_bind_ok (get_exec _), skipped, output]
    simp only [isContainer_create_self, Body.ownsChildren]
    have hcopied : (filled s.size as attributes).pairs = copied (cv.presetsOf name) attributes := by
      rw [pairs_filled, hpairs]
    rw [← hcopied]
    cases howns : (cv.typeOf name).ownsChildren with
    | false =>
      rw [if_neg Bool.false_ne_true, if_neg Bool.false_ne_true, if_neg Bool.false_ne_true,
        Session.note_nil]
      exact ⟨_, _, exec_pure _ _, planted_of_filling hfilling⟩
    | true =>
      rw [if_pos rfl, if_pos rfl, if_pos rfl]
      have hbody : body.ownsChildren = true := howns
      obtain ⟨t, ht, hfilled⟩ := liveNodes_exec hr name cs hn.2 hbody hfilling session
      exact ⟨_, t, by rw [exec_bind_ok ht, exec_pure], planted_of_filling hfilled⟩

/-- The loop over the children of a new element gives it their outputs, one after the other. -/
theorem liveNodes_exec (hr : cv.registry.OfClasses) (name : String) :
    (ns : List Markup.Node) → Markup.Node.arePlain ns = true → {s t : Store} → {body : Body} →
      {ts : List Tree} → body.ownsChildren = true → Filling s body ts t → (session : Session) →
      ∃ u, (cv.liveNodes name s.size ns).exec ⟨t, session⟩ =
          (.ok (), ⟨u, session.note cv (cv.skippedBelow name ns)⟩) ∧
        Filling s body (ts ++ cv.outputs name ns) u
  | [], _, s, t, body, ts, _, h, session => by
    rw [skippedBelow, Session.note_nil, outputs, List.append_nil]
    exact ⟨t, rfl, h⟩
  | n :: ns, hns, s, t, body, ts, hbody, h, session => by
    rw [Markup.Node.arePlain, Bool.and_eq_true] at hns
    obtain ⟨root, u, hrun, hplanted⟩ := liveNode_exec hr (some name) n hns.1 t session
    rw [liveNodes, exec_bind_ok hrun, skippedBelow, Session.note_append, outputs]
    generalize cv.output (some name) n = out at hplanted
    cases hplanted with
    | nothing =>
      exact liveNodes_exec hr name ns hns.2 hbody h _
    | tree grown new holds =>
      obtain ⟨v, hv, hfilling⟩ := h.append hbody grown new holds
      obtain ⟨w, hw, hrest⟩ := liveNodes_exec hr name ns hns.2 hbody hfilling
        (session.note cv (cv.skipped (some name) n))
      refine ⟨w, ?_, by simpa using hrest⟩
      change ((perform fun s' => s'.appendChild s.size t.size) >>=
        fun _ => cv.liveNodes name s.size ns).exec _ = _
      rw [exec_bind_ok (perform_exec hv _), hw]

end

/-- A live conversion of an element is that of a node, in whatever element it stands. -/
theorem liveElement_eq (parent : Option String) {n : Markup.Node} (he : n.isElement = true) :
    cv.liveElement n = cv.liveNode parent n := by
  obtain ⟨name, attributes, cs, rfl⟩ := Markup.Node.exists_of_isElement he
  rw [liveElement, liveNode, liveNode]

/-! ## Main statement -/

/-- The nodes of `t` that are not in `s` are a tree with the root `r`, and nothing leads into it:
the root has no parent and no list has it, every new node stands below the root, none is its own
ancestor, each but the root is listed exactly once, by the container that it points to, and
attributes belong to the element that has them. -/
structure NewTree (s t : Store) (r : NodeId) : Prop where
  root_new : s.size ≤ r ∧ r < t.size
  detached : t.parent? r = none ∧ ∀ p, r ∉ t.children p
  all_below : ∀ x, s.size ≤ x → x < t.size → t.UpTo x r
  acyclic : ∀ x, s.size ≤ x → ¬ t.Ancestor x x
  listed_once : ∀ x, s.size ≤ x → x < t.size → x ≠ r →
    ∃ p, ∀ q, (t.children q).count x = if q = p then 1 else 0
  linked : ∀ p, s.size ≤ p → ∀ x ∈ t.children p,
    s.size ≤ x ∧ t.parent? x = some p ∧ t.isContainer p = true
  owned : ∀ x, s.size ≤ x → ∀ as, t.attributes? x = some as → ∀ a ∈ as, a.owner = some x

/-- A tree from number `s.size` on is such a tree, as no link of an old node leads to it. -/
theorem newTree_of_treeFrom {s t : Store} (hs : s.Closed) (hg : Grown s t)
    (h : TreeFrom s.size t) : NewTree s t s.size := by
  have hold {x p : NodeId} (hp : p < s.size) (hx : x ∈ t.children p) : x < s.size :=
    hs.children (hg.children hp ▸ hx)
  have hlisted {x p : NodeId} (hx : s.size ≤ x) (hm : x ∈ t.children p) :
      s.size ≤ p ∧ p < x ∧ t.parent? x = some p ∧ t.isContainer p = true := by
    rcases Nat.lt_or_ge p s.size with hp | hp
    · exact absurd (hold hp hm) (Nat.not_lt.mpr hx)
    · obtain ⟨hpx, -, hxp, hpc⟩ := h.listed p hp x hm
      exact ⟨hp, hpx, hxp, hpc⟩
  refine ⟨⟨Nat.le_refl _, h.root⟩, ⟨h.detached, fun p hm => ?_⟩, fun x => h.upTo_root,
    fun x => h.not_ancestor_self, fun x hx hlt hne => ?_, fun p hp x hm => ?_, h.owned⟩
  · obtain ⟨hp, hlt, -⟩ := hlisted (Nat.le_refl _) hm
    exact Nat.lt_irrefl _ (Nat.lt_of_le_of_lt hp hlt)
  · obtain ⟨p, hp, hxp, hm⟩ := h.linked x (Nat.lt_of_le_of_ne hx (Ne.symm hne)) hlt
    refine ⟨p, fun q => ?_⟩
    split
    · subst q; exact List.nodup_iff_count_eq_one.mp (h.nodup p hp) x hm
    · rename_i hq
      refine List.count_eq_zero.mpr fun hmq => hq ?_
      obtain ⟨-, -, hxq, -⟩ := hlisted hx hmq
      exact Option.some.inj (hxq.symm.trans hxp)
  · obtain ⟨hpx, -, hxp, hpc⟩ := h.listed p hp x hm
    exact ⟨Nat.le_of_lt (Nat.lt_of_le_of_lt hp hpx), hxp, hpc⟩

/-- With a registry of element classes and plain attribute values, a live conversion never fails, of
any node and, on its own, of an element. It gives the nodes of the output that conversion into trees
gives, and reports the same. All nodes of the store stay as they were; the new ones, if any, are a
detached tree. -/
theorem live_conversion (hr : cv.registry.OfClasses) {n : Markup.Node} (hn : n.isPlain = true)
    {s : Store} (hs : s.Closed) (parent : Option String) (session : Session) :
    ∃ root t session',
      (cv.liveNode parent n).exec ⟨s, session⟩ = (.ok root, ⟨t, session'⟩) ∧
      (n.isElement = true →
        (cv.liveElement n).exec ⟨s, session⟩ = (.ok root, ⟨t, session'⟩)) ∧
      (cv.node parent n).exec session = (.ok (root.bind t.tree?), session') ∧
      (∀ x < s.size, t.cells[x]? = s.cells[x]?) ∧
      (root = none → t = s) ∧ ∀ r, root = some r → NewTree s t r := by
  obtain ⟨root, t, hrun, hplanted⟩ := liveNode_exec hr parent n hn s session
  refine ⟨root, t, _, hrun, fun he => by rw [liveElement_eq parent he, hrun], ?_⟩
  rw [node_exec hr parent n hn session]
  generalize cv.output parent n = out at hplanted
  cases hplanted with
  | nothing => exact ⟨rfl, fun _ _ => rfl, fun _ => rfl, fun r hr => absurd hr (by simp)⟩
  | tree grown new holds =>
    refine ⟨?_, grown.cell, fun h => absurd h (by simp), fun r hr => ?_⟩
    · rw [Option.bind_some, new.tree?_of_holds holds]
    · rw [← Option.some.inj hr]
      exact newTree_of_treeFrom hs grown new

/-- A page is converted into a store that has a cycle and a node that its parent does not list. -/
theorem live_conversion_twisted :
    badgeConverter.registry.OfClasses ∧ badgePage.isPlain = true ∧ twisted.Closed ∧
      ∃ root t session',
        (badgeConverter.liveNode none badgePage).exec ⟨twisted, .initial⟩ =
          (.ok root, ⟨t, session'⟩) ∧
        (badgePage.isElement = true → (badgeConverter.liveElement badgePage).exec
          ⟨twisted, .initial⟩ = (.ok root, ⟨t, session'⟩)) ∧
        (badgeConverter.node none badgePage).exec .initial =
          (.ok (root.bind t.tree?), session') ∧
        (∀ x < twisted.size, t.cells[x]? = twisted.cells[x]?) ∧
        (root = none → t = twisted) ∧ ∀ r, root = some r → NewTree twisted t r := by
  have hplain : badgePage.isPlain = true := rfl
  obtain ⟨h, run⟩ := reached_twisted
  have hclosed := run.links.1.closed
  exact ⟨ofClasses_badgeConverter, hplain, hclosed,
    live_conversion ofClasses_badgeConverter hplain hclosed none .initial⟩

end Converter

end TypedMarkup
