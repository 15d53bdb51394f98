import TypedMarkup.Proofs.Conversion.Output
import TypedMarkup.Proofs.Position
import Mathlib.Data.List.Forall2

/-!
# Calls to constructors

A factory may give something else on each call. What a conversion makes of an element then depends
on the calls before, and whether it goes on below the element depends on what has been made of it.
`record` follows this: it gives the output of a node and the elements that are visited, each with
where it stands in the input, where its node stands in the output, and what its constructor gave.

* `node_record`: a conversion gives this output, and calls the factories of the elements visited in
  their order;
* `supplied_record`: each is given what its constructor gives after the calls for those before it;
* `pairwise_record`, `found_record`, `visited_record`: the elements visited are those above which
  all nodes of the output own children, in document order;
* `matched_record`, `nested_record`: their nodes are the elements of the output, in this order and
  nested in this way. A constructor may give an element that has children already; what is in these
  (`brought`) stands before the outputs of the nodes in the element and is no output of a node.

`node_recorded` puts all this together.
-/

namespace TypedMarkup

/-- Every call to a constructor that is registered gives a new element, with or without children. -/
def Registry.GivesElements (r : Registry) : Prop :=
  ∀ tag d, r.lookup? tag = some d → ∀ calls, ∃ type tag attributes children,
    (d.constructor.call calls).1 = .ok (.node (.element type tag attributes children))

/-- To leave nodes out calls no factory. -/
theorem Session.calls_note (session : Session) (cv : Converter) (names : List String) :
    (session.note cv names).calls = session.calls := by
  unfold note
  split <;> rfl

namespace Converter

/-! ## Elements visited -/

/-- An element as it is new. -/
structure NewElement where
  type : ElementType
  tag : String
  attributes : List (String × String)
  children : List Tree

/-- The element as a tree. -/
def NewElement.tree (new : NewElement) : Tree :=
  .element new.type new.tag new.attributes new.children

/-- What is made for an element with a name after some calls: what its constructor gives, or what
the catalog says. -/
def made (cv : Converter) (calls : Calls) (name : String) : NewElement :=
  let standard : NewElement :=
    ⟨.standard (Shape.ofInfo (Catalog.resolve (Text.lower name))), Text.lower name, [], []⟩
  match cv.registry.lookup? (Text.lower name) with
  | none => standard
  | some d =>
    match (d.constructor.call calls).1 with
    | .ok (.node (.element type tag attributes children)) => ⟨type, tag, attributes, children⟩
    | _ => standard

/-- The number of the factory that is called for elements with a name. -/
def factory? (cv : Converter) (name : String) : Option Nat :=
  match cv.registry.lookup? (Text.lower name) with
  | some d =>
    match d.constructor with
    | .ofFactory f => some f.number
    | .ofClass _ => none
  | none => none

/-- An element that a conversion visits: where it stands in the input, where its node stands in the
output, its name and attributes, and what was made for it. -/
structure Visit where
  source : Position
  place : Position
  name : String
  attributes : List (String × Value)
  made : NewElement

/-- The visit, seen from an element whose child number `i` it is in, and from its node, whose child
number `j` the output is. -/
def Visit.under (i j : Nat) (v : Visit) : Visit :=
  { v with source := i :: v.source, place := j :: v.place }

/-- The factories that are called for the elements visited, in order. -/
def called (cv : Converter) (vs : List Visit) : List Nat :=
  vs.filterMap fun v => cv.factory? v.name

/-- The calls after these elements have been visited. -/
def after (cv : Converter) (calls : Calls) (vs : List Visit) : Calls :=
  (cv.called vs).reverse ++ calls

mutual

/-- The output of a node in an element named `parent`, or in none, when some calls have been made,
and the elements that are visited. -/
def record (cv : Converter) (parent : Option String) (calls : Calls) :
    Markup.Node → Option Tree × List Visit
  | .element name attributes cs =>
    let new := cv.made calls name
    let visit : Visit := ⟨[], [], name, attributes, new⟩
    let below :=
      if new.type.ownsChildren then
        let given := cv.recordBelow name ((cv.factory? name).toList ++ calls) 0
          new.children.length cs
        (new.children ++ given.1, given.2)
      else ([], [])
    (some (.element new.type new.tag (copied new.attributes attributes) below.1), visit :: below.2)
  | .string sort data => (stringOutput parent sort data, [])
  | .foreign _ => (none, [])
  | .absent => (none, [])

/-- The same for the nodes in an element named `parent`, which are its children from number `i` on;
the outputs are those from number `j` on. -/
def recordBelow (cv : Converter) (parent : String) (calls : Calls) (i j : Nat) :
    List Markup.Node → List Tree × List Visit
  | [] => ([], [])
  | n :: ns =>
    let first := cv.record (some parent) calls n
    let others := cv.recordBelow parent (cv.after calls first.2) (i + 1)
      (j + first.1.toList.length) ns
    (first.1.toList ++ others.1, first.2.map (Visit.under i j) ++ others.2)

end

variable {cv : Converter} {parent : Option String} {calls : Calls} {root : Markup.Node}

/-! ## Running a conversion -/

theorem after_nil (calls : Calls) : cv.after calls [] = calls := rfl

theorem after_cons (calls : Calls) (v : Visit) (vs : List Visit) :
    cv.after calls (v :: vs) = cv.after ((cv.factory? v.name).toList ++ calls) vs := by
  unfold after called
  rw [List.filterMap_cons]
  cases cv.factory? v.name <;> simp

theorem after_append (calls : Calls) (vs ws : List Visit) :
    cv.after calls (vs ++ ws) = cv.after (cv.after calls vs) ws := by
  simp only [after, called, List.filterMap_append, List.reverse_append, List.append_assoc]

theorem after_under (calls : Calls) (i j : Nat) (vs : List Visit) :
    cv.after calls (vs.map (Visit.under i j)) = cv.after calls vs := by
  simp only [after, called, List.filterMap_map]
  rfl

theorem call_exec {constructor : Constructor} {session : Session} {product : Product}
    (h : (constructor.call session.calls).1 = .ok product) :
    (call constructor).exec session =
      (.ok product, { session with calls := (constructor.call session.calls).2 }) := by
  have hcall : constructor.call session.calls = (.ok product, (constructor.call session.calls).2) :=
    Prod.ext h rfl
  unfold call
  rw [Conversion.exec_bind_ok (show (get : Conversion Session).exec session = (.ok session, session)
    from rfl), hcall]
  rfl

/-- What is built for an element is what is made, and its factory is called once. -/
theorem build_exec (hr : cv.registry.GivesElements) (name : String) (session : Session) :
    ∃ session', (cv.build (Text.lower name)).exec session =
        (.ok (.node (cv.made session.calls name).tree), session') ∧
      session'.calls = (cv.factory? name).toList ++ session.calls := by
  unfold build made factory?
  cases hd : cv.registry.lookup? (Text.lower name) with
  | none =>
    refine ⟨session, ?_, rfl⟩
    simp only [Tree.standard, Text.lower_lower]
    rfl
  | some d =>
    obtain ⟨type, tag, attributes, children, hmade⟩ := hr _ d hd session.calls
    refine ⟨{ session with calls := (d.constructor.call session.calls).2 }, ?_, ?_⟩
    · simp only [hmade]
      exact call_exec hmade
    · cases hconstructor : d.constructor <;> simp only [hconstructor] <;> rfl

mutual

/-- A conversion gives the output that is recorded, and calls the factories of the elements visited
in turn, by induction on the node together with the nodes in it. -/
theorem node_record (hr : cv.registry.GivesElements) (parent : Option String) :
    (n : Markup.Node) → n.isPlain = true → (session : Session) → ∃ session',
      (cv.node parent n).exec session = (.ok (cv.record parent session.calls n).1, session') ∧
        session'.calls = cv.after session.calls (cv.record parent session.calls n).2
  | .element name attributes cs, hn, session => by
    rw [Markup.Node.isPlain, Bool.and_eq_true] at hn
    obtain ⟨built, hbuild, hcalls⟩ := build_exec hr name session
    rw [node, Conversion.exec_bind_ok hbuild]
    simp only [NewElement.tree, copyAttributes_of_isPlain hn.1, record]
    cases (cv.made session.calls name).type.ownsChildren with
    | false =>
      refine ⟨built, ?_, ?_⟩
      · simp only [Bool.false_eq_true, if_false, Conversion.exec_pure]
      · rw [hcalls]
        simp only [Bool.false_eq_true, if_false, after_cons, after_nil]
    | true =>
      obtain ⟨session', hbelow, hcalls'⟩ := nodes_record hr name 0
        (cv.made session.calls name).children.length cs hn.2 built
      rw [hcalls] at hbelow hcalls'
      refine ⟨session', ?_, ?_⟩
      · simp only [if_true]
        rw [Conversion.exec_bind_ok hbelow, Conversion.exec_pure]
      · rw [hcalls']
        simp only [if_true, after_cons]
  | .string sort data, _, session => by
    rw [node, string_exec, record]
    exact ⟨_, rfl, session.calls_note cv _⟩
  | .foreign typeName, _, session => by
    rw [node, Conversion.exec_bind_ok (report_exec ..), Conversion.exec_pure, record]
    exact ⟨_, rfl, session.calls_note cv _⟩
  | .absent, _, session => by
    rw [node, Conversion.exec_pure, record]
    exact ⟨_, rfl, rfl⟩

theorem nodes_record (hr : cv.registry.GivesElements) (parent : String) (i j : Nat) :
    (ns : List Markup.Node) → Markup.Node.arePlain ns = true → (session : Session) → ∃ session',
      (cv.nodes parent ns).exec session =
          (.ok (cv.recordBelow parent session.calls i j ns).1, session') ∧
        session'.calls = cv.after session.calls (cv.recordBelow parent session.calls i j ns).2
  | [], _, session => by
    rw [nodes, Conversion.exec_pure, recordBelow]
    exact ⟨_, rfl, rfl⟩
  | n :: ns, hns, session => by
    rw [Markup.Node.arePlain, Bool.and_eq_true] at hns
    obtain ⟨first, hfirst, hcalls⟩ := node_record hr (some parent) n hns.1 session
    obtain ⟨session', hothers, hcalls'⟩ := nodes_record hr parent (i + 1)
      (j + (cv.record (some parent) session.calls n).1.toList.length) ns hns.2 first
    rw [hcalls] at hothers hcalls'
    refine ⟨session', ?_, ?_⟩
    · rw [nodes, Conversion.exec_bind_ok hfirst, Conversion.exec_bind_ok hothers,
        Conversion.exec_pure, recordBelow]
    · rw [hcalls', recordBelow, after_append, after_under]

end

/-! ## What is supplied -/

/-- Each element is given what is made after the calls for those before it. -/
def Supplied (cv : Converter) : Calls → List Visit → Prop
  | _, [] => True
  | calls, v :: vs =>
    v.made = cv.made calls v.name ∧ cv.Supplied ((cv.factory? v.name).toList ++ calls) vs

theorem supplied_append {vs ws : List Visit} : cv.Supplied calls (vs ++ ws) ↔
    cv.Supplied calls vs ∧ cv.Supplied (cv.after calls vs) ws := by
  induction vs generalizing calls with
  | nil => simp [Supplied, after_nil]
  | cons v vs ih => rw [List.cons_append, Supplied, Supplied, ih, after_cons, and_assoc]

theorem supplied_under {i j : Nat} {vs : List Visit} :
    cv.Supplied calls (vs.map (Visit.under i j)) ↔ cv.Supplied calls vs := by
  induction vs generalizing calls with
  | nil => rfl
  | cons v vs ih => rw [List.map_cons, Supplied, Supplied, ih]; rfl

mutual

/-- The elements that are recorded are supplied in turn. -/
theorem supplied_record (parent : Option String) (calls : Calls) :
    (n : Markup.Node) → cv.Supplied calls (cv.record parent calls n).2
  | .element name attributes cs => by
    rw [record]
    refine ⟨rfl, ?_⟩
    dsimp only
    split
    · exact supplied_recordBelow name _ _ _ cs
    · exact trivial
  | .string .. => trivial
  | .foreign _ => trivial
  | .absent => trivial

theorem supplied_recordBelow (parent : String) (calls : Calls) (i j : Nat) :
    (ns : List Markup.Node) → cv.Supplied calls (cv.recordBelow parent calls i j ns).2
  | [] => trivial
  | n :: ns => by
    rw [recordBelow, supplied_append, supplied_under, after_under]
    exact ⟨supplied_record (some parent) calls n, supplied_recordBelow parent _ _ _ ns⟩

end

/-! ## Where the elements visited stand -/

/-- What is visited among children begins with their numbers. -/
theorem heads_recordBelow (parent : String) (calls : Calls) (i j : Nat) (ns : List Markup.Node) :
    ∀ v ∈ (cv.recordBelow parent calls i j ns).2, ∃ k p l q,
      v.source = k :: p ∧ v.place = l :: q ∧ i ≤ k ∧ j ≤ l := by
  induction ns generalizing calls i j with
  | nil => exact fun v hv => absurd hv List.not_mem_nil
  | cons n ns ih =>
    rw [recordBelow, List.forall_mem_append, List.forall_mem_map]
    refine ⟨fun w _ => ⟨i, w.source, j, w.place, rfl, rfl, Nat.le_refl i, Nat.le_refl j⟩,
      fun v hv => ?_⟩
    obtain ⟨k, p, l, q, hsource, hplace, hk, hl⟩ := ih _ _ _ v hv
    exact ⟨k, p, l, q, hsource, hplace, Nat.le_of_succ_le hk, Nat.le_trans (Nat.le_add_right ..) hl⟩

mutual

/-- The elements are visited in document order. -/
theorem pairwise_record (parent : Option String) (calls : Calls) : (n : Markup.Node) →
    (cv.record parent calls n).2.Pairwise fun v w => v.source < w.source
  | .element name attributes cs => by
    rw [record]
    dsimp only
    split
    · refine .cons (fun w hw => ?_) (pairwise_recordBelow name _ _ _ cs)
      obtain ⟨k, p, -, -, hsource, -⟩ := heads_recordBelow _ _ _ _ _ w hw
      rw [hsource]
      exact List.nil_lt_cons k p
    · exact List.pairwise_singleton ..
  | .string .. => .nil
  | .foreign _ => .nil
  | .absent => .nil

theorem pairwise_recordBelow (parent : String) (calls : Calls) (i j : Nat) :
    (ns : List Markup.Node) →
      (cv.recordBelow parent calls i j ns).2.Pairwise fun v w => v.source < w.source
  | [] => .nil
  | n :: ns => by
    rw [recordBelow, List.pairwise_append, List.pairwise_map]
    refine ⟨(pairwise_record (some parent) calls n).imp fun h =>
      List.cons_lt_cons_iff.mpr (.inr ⟨rfl, h⟩), pairwise_recordBelow parent _ _ _ ns,
      List.forall_mem_map.mpr fun v _ w hw => ?_⟩
    obtain ⟨k, p, -, -, hsource, -, hk, -⟩ := heads_recordBelow _ _ _ _ _ w hw
    rw [hsource]
    exact List.cons_lt_cons_iff.mpr (.inl hk)

end

mutual

/-- The elements visited are found where they stand. -/
theorem found_record (parent : Option String) (calls : Calls) : (n : Markup.Node) →
    ∀ v ∈ (cv.record parent calls n).2, ∃ cs,
      n.at? v.source = some (.element v.name v.attributes cs)
  | .element name attributes cs => by
    rw [record]
    dsimp only
    refine List.forall_mem_cons.mpr ⟨⟨cs, rfl⟩, ?_⟩
    split
    · intro v hv
      obtain ⟨k, c, p, hsource, hc, ds, hfound⟩ := found_recordBelow name _ _ _ cs v hv
      rw [Nat.zero_add] at hsource
      exact ⟨ds, by rw [hsource, Markup.Node.at?_cons, Markup.Node.children, hc, Option.bind_some,
        hfound]⟩
    · exact fun v hv => absurd hv List.not_mem_nil
  | .string .. => fun v hv => absurd hv List.not_mem_nil
  | .foreign _ => fun v hv => absurd hv List.not_mem_nil
  | .absent => fun v hv => absurd hv List.not_mem_nil

theorem found_recordBelow (parent : String) (calls : Calls) (i j : Nat) :
    (ns : List Markup.Node) → ∀ v ∈ (cv.recordBelow parent calls i j ns).2, ∃ k c p,
      v.source = (i + k) :: p ∧ ns[k]? = some c ∧
        ∃ cs, c.at? p = some (.element v.name v.attributes cs)
  | [] => fun v hv => absurd hv List.not_mem_nil
  | n :: ns => by
    rw [recordBelow, List.forall_mem_append, List.forall_mem_map]
    refine ⟨fun w hw => ⟨0, n, w.source, rfl, rfl, found_record (some parent) calls n w hw⟩,
      fun v hv => ?_⟩
    obtain ⟨k, c, p, hsource, hc, hfound⟩ := found_recordBelow parent _ _ _ ns v hv
    exact ⟨k + 1, c, p, by rw [hsource, Nat.add_right_comm, Nat.add_assoc], hc, hfound⟩

end

/-- The nodes of all elements visited above a position own children. -/
def Open (vs : List Visit) (p : Position) : Prop :=
  ∀ v ∈ vs, v.source <+: p → v.source ≠ p → v.made.type.ownsChildren = true

theorem open_append {vs ws : List Visit} {p : Position} :
    Open (vs ++ ws) p ↔ Open vs p ∧ Open ws p :=
  List.forall_mem_append

theorem open_under {vs : List Visit} {i j : Nat} {p : Position} :
    Open (vs.map (Visit.under i j)) (i :: p) ↔ Open vs p := by
  simp only [Open, List.forall_mem_map, Visit.under, List.cons_prefix_cons, true_and, ne_eq,
    List.cons.injEq]

theorem mem_sources_under {vs : List Visit} {i j : Nat} {p : Position} :
    i :: p ∈ (vs.map (Visit.under i j)).map Visit.source ↔ p ∈ vs.map Visit.source := by
  simp [Visit.under]

/-- What begins with other numbers is not visited there, and stands in no one's way. -/
theorem open_of_heads (vs : List Visit) {k : Nat} (p : Position)
    (h : ∀ v ∈ vs, ∃ l q, v.source = l :: q ∧ l ≠ k) :
    k :: p ∉ vs.map Visit.source ∧ Open vs (k :: p) := by
  refine ⟨fun hmem => ?_, fun v hv hprefix => ?_⟩
  · obtain ⟨v, hv, hsource⟩ := List.mem_map.mp hmem
    obtain ⟨l, q, hhead, hne⟩ := h v hv
    exact hne (List.cons.inj (hhead.symm.trans hsource)).1
  · obtain ⟨l, q, hhead, hne⟩ := h v hv
    rw [hhead] at hprefix
    exact absurd (List.cons_prefix_cons.mp hprefix).1 hne

/-- In what is no element there is none. -/
theorem not_isElement_of_at? {n m : Markup.Node} {p : Position} (hn : n.isElement = false)
    (hm : n.at? p = some m) : m.isElement = false := by
  cases p with
  | nil => rwa [← Option.some.inj hm]
  | cons k p =>
    have hchildren : n.children = [] := by
      cases n with
      | element => exact absurd hn.symm Bool.false_ne_true
      | string | foreign | absent => rfl
    rw [Markup.Node.at?_cons, hchildren] at hm
    exact absurd hm (by simp)

mutual

/-- An element is visited just when the nodes of all elements above it own children. -/
theorem visited_record (parent : Option String) (calls : Calls) : (n : Markup.Node) →
    ∀ p m, n.at? p = some m → m.isElement = true →
      (p ∈ (cv.record parent calls n).2.map Visit.source ↔ Open (cv.record parent calls n).2 p)
  | .element name attributes cs => by
    intro p m hm he
    rw [record]
    dsimp only
    cases p with
    | nil =>
      refine ⟨fun _ v _ hprefix hne => absurd (List.prefix_nil.mp hprefix) hne, fun _ => ?_⟩
      exact List.mem_cons_self
    | cons k p =>
      rw [Markup.Node.at?_cons, Option.bind_eq_some_iff] at hm
      obtain ⟨c, hc, hm⟩ := hm
      -- the element itself is above, and the others are those visited below it
      rw [List.map_cons, List.mem_cons, or_iff_right (List.cons_ne_nil k p), Open,
        List.forall_mem_cons]
      simp only [List.nil_prefix, true_implies, ne_eq, (List.cons_ne_nil k p).symm,
        not_false_eq_true]
      split
      · rename_i howns
        have hbelow := visited_recordBelow name ((cv.factory? name).toList ++ calls) 0
          (cv.made calls name).children.length cs k c p m hc hm he
        rw [Nat.zero_add] at hbelow
        exact hbelow.trans (and_iff_right howns).symm
      · rename_i howns
        exact ⟨fun h => absurd h List.not_mem_nil, fun h => absurd h.1 howns⟩
  | .string .. => fun p m hm he => absurd he (by rw [not_isElement_of_at? rfl hm]; decide)
  | .foreign _ => fun p m hm he => absurd he (by rw [not_isElement_of_at? rfl hm]; decide)
  | .absent => fun p m hm he => absurd he (by rw [not_isElement_of_at? rfl hm]; decide)

theorem visited_recordBelow (parent : String) (calls : Calls) (i j : Nat) :
    (ns : List Markup.Node) → ∀ k c p m, ns[k]? = some c → c.at? p = some m →
      m.isElement = true →
        ((i + k) :: p ∈ (cv.recordBelow parent calls i j ns).2.map Visit.source ↔
          Open (cv.recordBelow parent calls i j ns).2 ((i + k) :: p))
  | [] => fun k c p m hc => by simp at hc
  | n :: ns => by
    intro k c p m hc hm he
    rw [recordBelow, open_append, List.map_append, List.mem_append]
    cases k with
    | zero =>
      obtain rfl : n = c := by simpa using hc
      obtain ⟨hnone, hopen⟩ := open_of_heads (k := i)
        (cv.recordBelow parent _ (i + 1) _ ns).2 p fun v hv => by
          obtain ⟨l, q, -, -, hsource, -, hl, -⟩ := heads_recordBelow _ _ _ _ _ v hv
          exact ⟨l, q, hsource, by omega⟩
      rw [Nat.add_zero, or_iff_left hnone, and_iff_left hopen, mem_sources_under, open_under]
      exact visited_record (some parent) calls n p m hm he
    | succ k =>
      obtain ⟨hnone, hopen⟩ := open_of_heads (k := i + (k + 1))
        ((cv.record (some parent) calls n).2.map (Visit.under i j)) p
        (List.forall_mem_map.mpr fun v _ => ⟨i, v.source, rfl, by omega⟩)
      rw [or_iff_right hnone, and_iff_right hopen]
      have hothers := visited_recordBelow parent
        (cv.after calls (cv.record (some parent) calls n).2) (i + 1)
        (j + (cv.record (some parent) calls n).1.toList.length) ns k c p m hc hm he
      rwa [Nat.add_assoc, Nat.add_comm 1] at hothers

end

/-! ## Nesting -/

/-- Where an element is visited there is an output. -/
theorem length_output_record {v : Visit} {n : Markup.Node}
    (h : v ∈ (cv.record parent calls n).2) : (cv.record parent calls n).1.toList.length = 1 := by
  cases n with
  | element => rfl
  | string | foreign | absent => exact absurd h List.not_mem_nil

mutual

/-- The nodes of the elements visited are nested as these are. -/
theorem nested_record (parent : Option String) (calls : Calls) : (n : Markup.Node) →
    ∀ v ∈ (cv.record parent calls n).2, ∀ w ∈ (cv.record parent calls n).2,
      (v.place <+: w.place ↔ v.source <+: w.source)
  | .element name attributes cs => by
    rw [record]
    dsimp only
    split
    · -- above what is visited below stands the element itself
      refine List.forall_mem_cons.mpr ⟨fun w _ => by simp, fun v hv => ?_⟩
      refine List.forall_mem_cons.mpr ⟨?_, nested_recordBelow name _ _ _ cs v hv⟩
      obtain ⟨k, p, l, q, hsource, hplace, -⟩ := heads_recordBelow _ _ _ _ _ v hv
      rw [hsource, hplace]
      simp
    · intro v hv w hw
      rw [List.mem_singleton.mp hv]
      simp
  | .string .. => fun v hv => absurd hv List.not_mem_nil
  | .foreign _ => fun v hv => absurd hv List.not_mem_nil
  | .absent => fun v hv => absurd hv List.not_mem_nil

theorem nested_recordBelow (parent : String) (calls : Calls) (i j : Nat) :
    (ns : List Markup.Node) → ∀ v ∈ (cv.recordBelow parent calls i j ns).2,
      ∀ w ∈ (cv.recordBelow parent calls i j ns).2,
        (v.place <+: w.place ↔ v.source <+: w.source)
  | [] => fun v hv => absurd hv List.not_mem_nil
  | n :: ns => by
    rw [recordBelow]
    have hfirst := nested_record (some parent) calls n
    -- what is visited in the first child and what is visited in the others stand apart
    have hapart : ∀ v ∈ (cv.record (some parent) calls n).2,
        ∀ w ∈ (cv.recordBelow parent (cv.after calls (cv.record (some parent) calls n).2) (i + 1)
          (j + (cv.record (some parent) calls n).1.toList.length) ns).2,
          ∃ k p l q, w.source = k :: p ∧ w.place = l :: q ∧ i ≠ k ∧ j ≠ l := by
      intro v hv w hw
      obtain ⟨k, p, l, q, hsource, hplace, hk, hl⟩ := heads_recordBelow _ _ _ _ _ w hw
      rw [length_output_record hv] at hl
      exact ⟨k, p, l, q, hsource, hplace, by omega, by omega⟩
    simp only [List.forall_mem_append, List.forall_mem_map]
    refine ⟨fun v hv => ⟨fun w hw => ?_, fun w hw => ?_⟩,
      fun v hv => ⟨fun w hw => ?_, fun w hw => ?_⟩⟩
    · simp only [Visit.under, List.cons_prefix_cons, true_and]
      exact hfirst v hv w hw
    · obtain ⟨k, p, l, q, hsource, hplace, hk, hl⟩ := hapart v hv w hw
      simp [Visit.under, hsource, hplace, hk, hl]
    · obtain ⟨k, p, l, q, hsource, hplace, hk, hl⟩ := hapart w hw v hv
      simp [Visit.under, hsource, hplace, hk.symm, hl.symm]
    · exact nested_recordBelow parent _ _ _ ns v hv w hw

end

/-! ## The nodes of the elements visited -/

/-- The node at the place of the visit, made as it says, with the attributes of the element. If it
owns children, those that it was made with come first. -/
def Visit.Matches (v : Visit) (l : Position × Tree) : Prop :=
  l.1 = v.place ∧ ∃ below,
    l.2 = .element v.made.type v.made.tag (copied v.made.attributes v.attributes) below ∧
      (v.made.type.ownsChildren = true → v.made.children <+: below)

/-- Whether a position is in one of the first `number` children of the node at `place`. -/
def isInFirst (number : Nat) : Position → Position → Bool
  | [], k :: _ => decide (k < number)
  | j :: place, k :: p => j == k && isInFirst number place p
  | _, [] => false

/-- Whether a position is in one of the children that the element was made with. -/
def Visit.brings (v : Visit) (p : Position) : Bool :=
  isInFirst v.made.children.length v.place p

/-- Whether a position is in a child that one of the elements visited was made with. -/
def brought (vs : List Visit) (p : Position) : Bool :=
  vs.any fun v => v.brings p

theorem brought_cons (v : Visit) (vs : List Visit) (p : Position) :
    brought (v :: vs) p = (v.brings p || brought vs p) := rfl

theorem brought_append (vs ws : List Visit) (p : Position) :
    brought (vs ++ ws) p = (brought vs p || brought ws p) := List.any_append

theorem brought_under (i j : Nat) (vs : List Visit) (k : Nat) (p : Position) :
    brought (vs.map (Visit.under i j)) (k :: p) = (j == k && brought vs p) := by
  induction vs with
  | nil => simp [brought]
  | cons v vs ih =>
    rw [List.map_cons, brought_cons, brought_cons, ih, Bool.and_or_distrib_left]
    rfl

theorem brought_nil (vs : List Visit) : brought vs [] = false := by
  refine List.any_eq_false.mpr fun v _ => ?_
  rw [Visit.brings]
  cases v.place <;> simp [isInFirst]

/-- Nothing is brought to where no element visited begins. -/
theorem brought_of_heads {vs : List Visit} {k : Nat} {p : Position}
    (h : ∀ v ∈ vs, ∃ l q, v.place = l :: q ∧ l ≠ k) : brought vs (k :: p) = false := by
  refine List.any_eq_false.mpr fun v hv => ?_
  obtain ⟨l, q, hplace, hne⟩ := h v hv
  simp [Visit.brings, hplace, isInFirst, hne]

theorem filter_locatedIn_stringOutput (parent : Option String) (sort : Markup.StringSort)
    (data : String) : ((Tree.locatedIn (stringOutput parent sort data)).filter
      fun l => l.2.isElement) = [] := by
  unfold stringOutput
  cases sort.category parent with
  | text | rawData => dsimp only; split <;> rfl
  | comment | element | unknown => rfl

theorem locatedFrom_toList_append (j : Nat) (t : Option Tree) (ts : List Tree) :
    Tree.locatedFrom j (t.toList ++ ts) = (Tree.locatedIn t).map (fun l => (j :: l.1, l.2)) ++
      Tree.locatedFrom (j + t.toList.length) ts := by
  cases t <;> rfl

theorem heads_locatedFrom (j : Nat) (ts : List Tree) :
    ∀ l ∈ Tree.locatedFrom j ts, ∃ k p, l.1 = k :: p ∧ j ≤ k ∧ k < j + ts.length := by
  induction ts generalizing j with
  | nil => exact fun l hl => absurd hl List.not_mem_nil
  | cons t ts ih =>
    rw [Tree.locatedFrom, List.forall_mem_append, List.forall_mem_map, List.length_cons]
    refine ⟨fun l _ => ⟨j, l.1, rfl, Nat.le_refl j, by omega⟩, fun l hl => ?_⟩
    obtain ⟨k, p, hplace, hk, hlt⟩ := ih (j + 1) l hl
    exact ⟨k, p, hplace, by omega, by omega⟩

theorem locatedFrom_append (j : Nat) (ts us : List Tree) :
    Tree.locatedFrom j (ts ++ us) =
      Tree.locatedFrom j ts ++ Tree.locatedFrom (j + ts.length) us := by
  induction ts generalizing j with
  | nil => rfl
  | cons t ts ih =>
    rw [List.cons_append, Tree.locatedFrom, Tree.locatedFrom, ih, List.append_assoc,
      List.length_cons, Nat.add_right_comm, Nat.add_assoc]

/-- In an element that brings `own`, the elements that are not brought are in the children behind
these. -/
theorem filter_locatedFrom_own {v : Visit} (hplace : v.place = []) {own : List Tree}
    (hown : v.made.children = own) (vs : List Visit) (ts : List Tree) :
    ((Tree.locatedFrom 0 (own ++ ts)).filter fun l =>
        l.2.isElement && !brought (v :: vs) l.1) =
      (Tree.locatedFrom own.length ts).filter fun l => l.2.isElement && !brought vs l.1 := by
  have hbrings (k : Nat) (p : Position) : v.brings (k :: p) = decide (k < own.length) := by
    rw [Visit.brings, hplace, hown, isInFirst]
  rw [locatedFrom_append, List.filter_append, Nat.zero_add]
  have hfirst : ((Tree.locatedFrom 0 own).filter fun l =>
      l.2.isElement && !brought (v :: vs) l.1) = [] := by
    refine List.filter_eq_nil_iff.mpr fun l hl => ?_
    obtain ⟨k, p, hl, -, hlt⟩ := heads_locatedFrom 0 own l hl
    rw [Nat.zero_add] at hlt
    simp [hl, brought_cons, hbrings, hlt]
  rw [hfirst, List.nil_append]
  refine List.filter_congr fun l hl => ?_
  obtain ⟨k, p, hl, hle, -⟩ := heads_locatedFrom _ ts l hl
  simp [hl, brought_cons, hbrings, Nat.not_lt.mpr hle]

mutual

/-- The nodes of the elements visited are the elements of the output that these were not made with,
in the same order. -/
theorem matched_record (parent : Option String) (calls : Calls) :
    (n : Markup.Node) → List.Forall₂ Visit.Matches (cv.record parent calls n).2
      ((Tree.locatedIn (cv.record parent calls n).1).filter fun l =>
        l.2.isElement && !brought (cv.record parent calls n).2 l.1)
  | .element name attributes cs => by
    rw [record]
    dsimp only [Tree.locatedIn, Tree.located]
    rw [List.filter_cons_of_pos (by rw [brought_nil]; rfl)]
    split
    · refine .cons ⟨rfl, _, rfl, fun _ => List.prefix_append _ _⟩ ?_
      rw [filter_locatedFrom_own rfl rfl]
      exact matched_recordBelow name _ _ _ cs
    · rename_i howns
      exact .cons ⟨rfl, _, rfl, fun h => absurd h howns⟩ .nil
  | .string sort data => by
    have hleaf : ((Tree.locatedIn (stringOutput parent sort data)).filter fun l =>
        l.2.isElement && !brought [] l.1) = [] := by
      simpa [brought] using filter_locatedIn_stringOutput parent sort data
    rw [record, hleaf]
    exact .nil
  | .foreign _ => .nil
  | .absent => .nil

theorem matched_recordBelow (parent : String) (calls : Calls) (i j : Nat) :
    (ns : List Markup.Node) → List.Forall₂ Visit.Matches (cv.recordBelow parent calls i j ns).2
      ((Tree.locatedFrom j (cv.recordBelow parent calls i j ns).1).filter fun l =>
        l.2.isElement && !brought (cv.recordBelow parent calls i j ns).2 l.1)
  | [] => .nil
  | n :: ns => by
    have hfirst := matched_record (some parent) calls n
    have hothers := matched_recordBelow parent (cv.after calls (cv.record (some parent) calls n).2)
      (i + 1) (j + (cv.record (some parent) calls n).1.toList.length) ns
    rw [recordBelow, locatedFrom_toList_append, List.filter_append, List.filter_map]
    refine List.rel_append ?_ ?_
    · -- what is visited in the others brings nothing into the output of the first
      rw [List.forall₂_map_left_iff, List.forall₂_map_right_iff, List.filter_congr fun l hl => ?_]
      · exact hfirst.imp fun v l h => ⟨congrArg (j :: ·) h.1, h.2⟩
      have hlength : (cv.record (some parent) calls n).1.toList.length = 1 := by
        cases hout : (cv.record (some parent) calls n).1 with
        | none => rw [hout] at hl; exact absurd hl List.not_mem_nil
        | some tree => rfl
      have hnone : brought (cv.recordBelow parent (cv.after calls
          (cv.record (some parent) calls n).2) (i + 1)
          (j + (cv.record (some parent) calls n).1.toList.length) ns).2 (j :: l.1) = false := by
        refine brought_of_heads fun v hv => ?_
        obtain ⟨-, -, k, q, -, hplace, -, hk⟩ := heads_recordBelow _ _ _ _ _ v hv
        exact ⟨k, q, hplace, by omega⟩
      simp only [Function.comp_apply, brought_append, brought_under, hnone, beq_self_eq_true,
        Bool.true_and, Bool.or_false]
    · -- and what is visited in the first brings nothing into theirs
      rw [List.filter_congr fun l hl => ?_]
      · exact hothers
      obtain ⟨k, p, hplace, hk, -⟩ := heads_locatedFrom _ _ l hl
      have hnone : brought ((cv.record (some parent) calls n).2.map (Visit.under i j)) l.1 =
          false := by
        rw [hplace]
        refine brought_of_heads (List.forall_mem_map.mpr fun v hv => ⟨j, v.place, rfl, ?_⟩)
        rw [length_output_record hv] at hk
        omega
      rw [brought_append, hnone, Bool.false_or]

end

/-! ## Turns -/

/-- The factory is called for elements with this tag, and for no others. -/
def CallsOnlyFor (cv : Converter) (number : Nat) (tag : String) : Prop :=
  ∀ name, cv.factory? name = some number ↔ Text.lower name = tag

/-- What a factory gives next depends on the calls before the conversion, and on how often it has
been called since. -/
theorem product_of_made (hr : cv.registry.GivesElements) {name : String} {d : Definition}
    {f : Factory} (hd : cv.registry.lookup? (Text.lower name) = some d)
    (hf : d.constructor = .ofFactory f) (calls : Calls) (vs : List Visit) :
    f.product (calls.count f.number + (cv.called vs).count f.number) =
      .ok (.node (cv.made (cv.after calls vs) name).tree) := by
  obtain ⟨type, tag, attributes, children, hmade⟩ := hr _ d hd (cv.after calls vs)
  have hcount : (cv.after calls vs).count f.number =
      calls.count f.number + (cv.called vs).count f.number := by
    rw [after, List.count_append, List.count_reverse, Nat.add_comm]
  have hproduct : (d.constructor.call (cv.after calls vs)).1 =
      f.product (calls.count f.number + (cv.called vs).count f.number) := by
    rw [hf, ← hcount]
    rfl
  rw [← hproduct, hmade]
  simp only [NewElement.tree, made, hd, hmade]

/-- A factory with one tag has been called for each element with this tag. -/
theorem count_called {number : Nat} {tag : String} (h : cv.CallsOnlyFor number tag)
    (vs : List Visit) :
    (cv.called vs).count number = vs.countP fun v => Text.lower v.name = tag := by
  rw [called, List.count, List.countP_filterMap]
  refine List.countP_congr fun v _ => ?_
  have := h v.name
  cases hv : cv.factory? v.name <;> simp_all

/-! ## Main statement -/

/-- The elements that a conversion visits. They stand in document order, and are those above which
all nodes of the output own children (`visited`). The factories are called for them in turn
(`calls`), and each is made of what its constructor gives by then (`supplied`): where this is a
factory, of its next product (`product`), whose number is that of the elements with the same tag
that have been visited before, if the factory has one tag (`turn`). Their nodes are the elements of
the output but for those that the constructors have put there (`brought`), in this order and nested
in this way. -/
structure Recorded (cv : Converter) (root : Markup.Node) (before : Calls) (out : Option Tree)
    (after : Calls) (visits : List Visit) : Prop where
  in_order : (visits.map Visit.source).Pairwise (· < ·)
  found : ∀ v ∈ visits, ∃ cs, root.at? v.source = some (.element v.name v.attributes cs)
  visited : ∀ p m, root.at? p = some m → m.isElement = true →
    (p ∈ visits.map Visit.source ↔
      ∀ v ∈ visits, v.source <+: p → v.source ≠ p → v.made.type.ownsChildren = true)
  calls : after = (visits.filterMap fun v => cv.factory? v.name).reverse ++ before
  supplied : ∀ earlier v later, visits = earlier ++ v :: later →
    v.made = cv.made (cv.after before earlier) v.name
  product : ∀ earlier v later, visits = earlier ++ v :: later → ∀ d f,
    cv.registry.lookup? (Text.lower v.name) = some d → d.constructor = .ofFactory f →
      f.product (before.count f.number + (cv.called earlier).count f.number) =
        .ok (.node v.made.tree)
  turn : ∀ earlier v later, visits = earlier ++ v :: later → ∀ number,
    cv.CallsOnlyFor number (Text.lower v.name) → (cv.called earlier).count number =
      earlier.countP fun u => Text.lower u.name = Text.lower v.name
  matched : List.Forall₂ Visit.Matches visits
    ((Tree.locatedIn out).filter fun l => l.2.isElement && !brought visits l.1)
  nested : ∀ v ∈ visits, ∀ w ∈ visits, (v.place <+: w.place ↔ v.source <+: w.source)

/-- Where every call to a constructor gives a new element, of any class and void or not, and the
attributes are plain, a conversion does not fail. It calls the constructors once for each element
that it visits, in document order, and visits the elements above which no node of the output is
void; what the definitions say of this plays no part. -/
theorem node_recorded (hr : cv.registry.GivesElements) (hroot : root.isPlain = true)
    (parent : Option String) (session : Session) :
    ∃ out session' visits, (cv.node parent root).exec session = (.ok out, session') ∧
      cv.Recorded root session.calls out session'.calls visits := by
  obtain ⟨session', hexec, hcalls⟩ := node_record hr parent root hroot session
  refine ⟨_, session', (cv.record parent session.calls root).2, hexec, ?_⟩
  have hsupplied (earlier : List Visit) (v : Visit) (later : List Visit)
      (h : (cv.record parent session.calls root).2 = earlier ++ v :: later) :
      v.made = cv.made (cv.after session.calls earlier) v.name := by
    have hall : cv.Supplied session.calls (cv.record parent session.calls root).2 :=
      supplied_record parent session.calls root
    rw [h, supplied_append] at hall
    exact hall.2.1
  exact
    { in_order := List.pairwise_map.mpr (pairwise_record parent session.calls root)
      found := found_record parent session.calls root
      visited := visited_record parent session.calls root
      calls := hcalls
      supplied := hsupplied
      product := fun earlier v later h d f hd hf => by
        rw [hsupplied earlier v later h]
        exact product_of_made hr hd hf session.calls earlier
      turn := fun earlier v later _ number h => count_called h earlier
      matched := matched_record parent session.calls root
      nested := nested_record parent session.calls root }

/-- A factory of cards, which gives void ones and containers in turn, each time of another class. The
containers have a heading in them. -/
def cards : Factory where
  number := 7
  label := "make_card"
  product n :=
    let form : Form := if n % 2 = 0 then .void else .container
    let headings := if n % 2 = 0 then [] else [Tree.element (.standard .inlineContainer) "b" [] []]
    .ok (.node (.element (.semantic ⟨"Card" ++ Nat.repr n, [], form, "x-card", .block, []⟩) "x-card"
      [] headings))

/-- A converter that knows the factory, after the call for its sample. -/
def cardConverter : Converter :=
  ⟨(Registry.register (.ofFactory cards) none [] .empty).registry, true⟩

/-- The second card is in the first, and holds a third; a fourth stands behind them. -/
def cardPage : Markup.Node :=
  .element "div" [("id", .text "a")]
    [.element "X-Card" [] [.element "x-card" [] [.element "X-CARD" [] []], .string .plain "x"],
      .element "x-card" [] []]

theorem givesElements_cardConverter : cardConverter.registry.GivesElements := by
  intro tag d hd calls
  have hconstructor : d.constructor = .ofFactory cards := by
    unfold Registry.lookup? at hd
    split at hd
    · cases hd
    · rw [show d = _ from congrArg Prod.snd (List.mem_singleton.mp (Entries.mem_of_find? hd))]
  rw [hconstructor]
  exact ⟨_, _, _, _, rfl⟩

/-- The definition says that cards are void, as the sample was. The first card is a container, so
that the factory is called for the second one, which is void; it is not called for the third. -/
theorem node_recorded_cardPage :
    cardConverter.registry.GivesElements ∧ cardPage.isPlain = true ∧
      (cardConverter.registry.lookup? "x-card").map (·.isVoid) = some true ∧
      ∃ out session' visits,
        (cardConverter.node none cardPage).exec ⟨[7], []⟩ = (.ok out, session') ∧
          cardConverter.Recorded cardPage [7] out session'.calls visits ∧
          visits.filterMap (fun v => cardConverter.factory? v.name) = [7, 7, 7] := by
  have hplain : cardPage.isPlain = true := rfl
  have hcalls : ((cardConverter.node none cardPage).exec ⟨[7], []⟩).2.calls = [7, 7, 7, 7] := by
    decide +kernel
  obtain ⟨out, session', visits, hexec, hrecorded⟩ :=
    node_recorded givesElements_cardConverter hplain none ⟨[7], []⟩
  rw [hexec, hrecorded.calls] at hcalls
  refine ⟨givesElements_cardConverter, hplain, by decide +kernel, out, session', visits, hexec,
    hrecorded, ?_⟩
  rw [← List.reverse_inj]
  exact List.append_cancel_right hcalls

end Converter

end TypedMarkup
