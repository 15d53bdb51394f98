import TypedMarkup.Proofs.Conversion.Survivors
import Mathlib.Data.List.Forall2
import Mathlib.Data.List.Lex
import Mathlib.Tactic.Choose

/-!
# Survivors and the nodes of the output

The survivors of a conversion are the nodes of its output, one for one: `Converter.place` says where
a survivor comes to stand. It goes down the input and the output side by side, and at each step
counts the children before the one it takes that have an output (`slot`).

* `at?_place`, `exists_survivor`: at the place of a survivor stands its output, and every place of
  the output is that of a survivor;
* `place_lt_place`, `place_prefix_place`: places keep document order and nesting;
* `node_survivors`: all this for the lists of all survivors and of all nodes of the output.
-/

namespace TypedMarkup

/-! ## Slots -/

section Slots

variable {α β : Type} (f : α → Option β)

/-- How many of the elements in front of number `i` have a value. -/
def slot (xs : List α) (i : Nat) : Nat :=
  ((xs.take i).filterMap f).length

@[simp] theorem slot_zero (xs : List α) : slot f xs 0 = 0 := rfl

theorem slot_cons_succ (x : α) (xs : List α) (i : Nat) :
    slot f (x :: xs) (i + 1) = (f x).toList.length + slot f xs i := by
  unfold slot
  rw [List.take_succ_cons, List.filterMap_cons]
  cases f x with
  | none => simp
  | some y => simp [Nat.add_comm]

variable {f}

/-- An element with a value has it in its slot. -/
theorem getElem?_slot {xs : List α} {i : Nat} {x : α} {y : β} (hx : xs[i]? = some x)
    (hy : f x = some y) : (xs.filterMap f)[slot f xs i]? = some y := by
  induction xs generalizing i with
  | nil => exact absurd hx (by simp)
  | cons z xs ih =>
    cases i with
    | zero =>
      rw [List.getElem?_cons_zero] at hx
      rw [Option.some.inj hx, List.filterMap_cons_some hy]
      rfl
    | succ i =>
      rw [List.getElem?_cons_succ] at hx
      rw [slot_cons_succ, List.filterMap_cons]
      cases f z with
      | none => simpa using ih hx
      | some w => simpa [Nat.add_comm 1] using ih hx

/-- Every value is in the slot of an element. -/
theorem exists_slot {xs : List α} {k : Nat} {y : β} (h : (xs.filterMap f)[k]? = some y) :
    ∃ i x, xs[i]? = some x ∧ f x = some y ∧ slot f xs i = k := by
  induction xs generalizing k with
  | nil => exact absurd h (by simp)
  | cons z xs ih =>
    rw [List.filterMap_cons] at h
    cases hz : f z with
    | none =>
      rw [hz] at h
      obtain ⟨i, x, hx, hy, hk⟩ := ih h
      exact ⟨i + 1, x, hx, hy, by rw [slot_cons_succ, hz, hk]; simp⟩
    | some w =>
      rw [hz] at h
      cases k with
      | zero =>
        rw [List.getElem?_cons_zero] at h
        exact ⟨0, z, rfl, hz.trans h, rfl⟩
      | succ k =>
        obtain ⟨i, x, hx, hy, hk⟩ := ih (by simpa using h)
        exact ⟨i + 1, x, hx, hy, by rw [slot_cons_succ, hz, hk]; simp [Nat.add_comm]⟩

/-- The slots after that of an element with a value are greater. -/
theorem slot_lt_slot {xs : List α} {i j : Nat} {x : α} (hx : xs[i]? = some x)
    (hy : (f x).isSome = true) (hij : i < j) : slot f xs i < slot f xs j := by
  induction xs generalizing i j with
  | nil => exact absurd hx (by simp)
  | cons z xs ih =>
    obtain ⟨j, rfl⟩ := Nat.exists_eq_add_one_of_ne_zero (Nat.ne_of_gt (Nat.zero_lt_of_lt hij))
    cases i with
    | zero =>
      rw [List.getElem?_cons_zero] at hx
      rw [slot_zero, slot_cons_succ, Option.some.inj hx, Option.length_toList, if_pos hy]
      exact Nat.lt_add_right _ Nat.one_pos
    | succ i =>
      rw [List.getElem?_cons_succ] at hx
      have := ih hx (Nat.lt_of_succ_lt_succ hij)
      rw [slot_cons_succ, slot_cons_succ]
      omega

end Slots

/-! ## Places -/

namespace Converter

variable {cv : Converter} {parent : Option String} {root n m : Markup.Node}

theorem outputs_eq_filterMap (cv : Converter) (name : String) (cs : List Markup.Node) :
    cv.outputs name cs = cs.filterMap (cv.output (some name)) := by
  induction cs with
  | nil => rfl
  | cons c cs ih =>
    rw [outputs, ih, List.filterMap_cons]
    cases cv.output (some name) c <;> rfl

/-- Below an element that does not become void are the outputs of its children, and below one that
does is nothing. -/
theorem children_of_output (hr : cv.registry.OfClasses) {name : String}
    {attributes : List (String × Value)} {cs : List Markup.Node} {u : Tree}
    (h : cv.output parent (.element name attributes cs) = some u) :
    u.children =
      if cv.makesVoid name = true then [] else cs.filterMap (cv.output (some name)) := by
  rw [output] at h
  rw [← Option.some.inj h, Tree.children, ownsChildren_typeOf hr, outputs_eq_filterMap]
  cases cv.makesVoid name <;> rfl

/-- Where the node at a position of the input comes to stand in the output. -/
def place (cv : Converter) (root : Markup.Node) : Position → Position
  | [] => []
  | i :: p =>
    slot (cv.output root.name?) root.children i ::
      match root.children[i]? with
      | some c => cv.place c p
      | none => []

theorem place_cons {c : Markup.Node} {i : Nat} (hc : root.children[i]? = some c) (p : Position) :
    cv.place root (i :: p) =
      slot (cv.output root.name?) root.children i :: cv.place c p := by
  rw [place, hc]

/-- The root of what holds a survivor has an output. -/
theorem Survives.isSome_output {p : Position} (h : cv.Survives parent root p n) :
    (cv.output parent root).isSome = true := by
  cases p with
  | nil =>
    obtain ⟨rfl, hs⟩ := survives_nil.mp h
    exact hs
  | cons i p =>
    obtain ⟨name, attributes, cs, c, rfl, -⟩ := survives_cons.mp h
    rfl

/-- At the place of a survivor stands its own output, by induction on its position. -/
theorem at?_place (hr : cv.registry.OfClasses) {p : Position} (h : cv.Survives parent root p n) :
    (cv.output parent root).bind (·.at? (cv.place root p)) =
      cv.output (root.around parent p) n := by
  induction p generalizing parent root with
  | nil =>
    obtain ⟨rfl, hs⟩ := survives_nil.mp h
    obtain ⟨t, ht⟩ := Option.isSome_iff_exists.mp hs
    rw [Markup.Node.around_nil, ht]
    rfl
  | cons i p ih =>
    obtain ⟨name, attributes, cs, c, rfl, hv, hc, hs⟩ := survives_cons.mp h
    obtain ⟨u, hu⟩ := Option.isSome_iff_exists.mp hs.isSome_output
    obtain ⟨w, hw⟩ := Option.isSome_iff_exists.mp h.isSome_output
    have hbelow := ih hs
    rw [hu, Option.bind_some] at hbelow
    have hchildren := children_of_output hr hw
    rw [if_neg (by rw [hv]; exact Bool.false_ne_true)] at hchildren
    rw [hw, Option.bind_some, place_cons hc, Tree.at?_cons, hchildren, Markup.Node.name?,
      Markup.Node.children, getElem?_slot hc hu, Option.bind_some, hbelow,
      Markup.Node.around_cons hc]
    rfl

/-- So a survivor becomes the node at its place. -/
theorem output_at_place (hr : cv.registry.OfClasses) {p : Position}
    (h : cv.Survives parent root p n) :
    ∃ t, (cv.output parent root).bind (·.at? (cv.place root p)) = some t ∧
      cv.Yields (root.around parent p) n t := by
  obtain ⟨t, ht⟩ := Option.isSome_iff_exists.mp (survives_iff.mp h).2
  exact ⟨t, (at?_place hr h).trans ht, output_yields hr ht⟩

/-- At every place of the output stands a survivor, by induction on the place. -/
theorem exists_survivor (hr : cv.registry.OfClasses) {q : Position} {t : Tree}
    (h : (cv.output parent root).bind (·.at? q) = some t) :
    ∃ p n, cv.Survives parent root p n ∧ cv.place root p = q := by
  induction q generalizing parent root with
  | nil =>
    obtain ⟨u, hu, -⟩ := Option.bind_eq_some_iff.mp h
    exact ⟨[], root, survives_nil.mpr ⟨rfl, by rw [hu]; rfl⟩, rfl⟩
  | cons k q ih =>
    obtain ⟨u, hu, hut⟩ := Option.bind_eq_some_iff.mp h
    rw [Tree.at?_cons, Option.bind_eq_some_iff] at hut
    obtain ⟨w, hw, hwt⟩ := hut
    cases root with
    | string sort data =>
      -- the output of a string has no children
      have hy := output_yields hr hu
      cases hy <;> exact absurd hw (by simp [Tree.children])
    | foreign | absent => rw [output] at hu; exact absurd hu (by simp)
    | element name attributes cs =>
      rw [children_of_output hr hu] at hw
      cases hv : cv.makesVoid name with
      | true => rw [if_pos hv] at hw; exact absurd hw (by simp)
      | false =>
        rw [if_neg (by rw [hv]; exact Bool.false_ne_true)] at hw
        obtain ⟨i, c, hc, hcw, rfl⟩ := exists_slot hw
        obtain ⟨p, n, hs, rfl⟩ := ih (show (cv.output (some name) c).bind _ = some t by
          rw [hcw, Option.bind_some, hwt])
        exact ⟨i :: p, n, survives_cons.mpr ⟨name, attributes, cs, c, rfl, hv, hc, hs⟩,
          place_cons hc p⟩

/-- Places keep document order. -/
theorem place_lt_place {p q : Position} (hp : cv.Survives parent root p n)
    (hq : cv.Survives parent root q m) (hpq : p < q) : cv.place root p < cv.place root q := by
  induction p generalizing parent root q with
  | nil =>
    cases q with
    | nil => exact absurd hpq (List.lt_irrefl [])
    | cons j q => exact List.nil_lt_cons _ _
  | cons i p ih =>
    cases q with
    | nil => exact absurd hpq (List.not_lt_nil _)
    | cons j q =>
      obtain ⟨name, attributes, cs, c, rfl, -, hc, hs⟩ := survives_cons.mp hp
      obtain ⟨_, _, _, d, he, -, hd, hs'⟩ := survives_cons.mp hq
      obtain ⟨rfl, rfl, rfl⟩ := Markup.Node.element.inj he
      rw [place_cons hc, place_cons hd, List.cons_lt_cons_iff]
      rcases List.cons_lt_cons_iff.mp hpq with hij | ⟨rfl, hlt⟩
      · exact .inl (slot_lt_slot hc hs.isSome_output hij)
      · obtain rfl := Option.some.inj (hc.symm.trans hd)
        exact .inr ⟨rfl, ih hs hs' hlt⟩

/-- Places keep nesting: one survivor is inside another just when their places are so. -/
theorem place_prefix_place {p q : Position} (hp : cv.Survives parent root p n)
    (hq : cv.Survives parent root q m) : cv.place root p <+: cv.place root q ↔ p <+: q := by
  induction p generalizing parent root q with
  | nil => simp [place]
  | cons i p ih =>
    cases q with
    | nil => simp [place]
    | cons j q =>
      obtain ⟨name, attributes, cs, c, rfl, -, hc, hs⟩ := survives_cons.mp hp
      obtain ⟨_, _, _, d, he, -, hd, hs'⟩ := survives_cons.mp hq
      obtain ⟨rfl, rfl, rfl⟩ := Markup.Node.element.inj he
      rw [place_cons hc, place_cons hd, List.cons_prefix_cons, List.cons_prefix_cons]
      rcases Nat.lt_trichotomy i j with hij | rfl | hij
      · have := slot_lt_slot hc hs.isSome_output hij
        exact ⟨fun h => absurd h.1 (Nat.ne_of_lt this), fun h => absurd h.1 (Nat.ne_of_lt hij)⟩
      · obtain rfl := Option.some.inj (hc.symm.trans hd)
        rw [ih hs hs']
        exact ⟨fun h => ⟨rfl, h.2⟩, fun h => ⟨rfl, h.2⟩⟩
      · have := slot_lt_slot hd hs'.isSome_output hij
        exact ⟨fun h => absurd h.1 (Nat.ne_of_gt this), fun h => absurd h.1 (Nat.ne_of_gt hij)⟩

theorem place_lt_place_iff {p q : Position} (hp : cv.Survives parent root p n)
    (hq : cv.Survives parent root q m) : cv.place root p < cv.place root q ↔ p < q := by
  constructor
  · intro h
    rcases lt_trichotomy p q with hlt | rfl | hgt
    · exact hlt
    · exact absurd h (lt_irrefl _)
    · exact absurd h (lt_asymm (place_lt_place hq hp hgt))
  · exact place_lt_place hp hq

theorem place_inj {p q : Position} (hp : cv.Survives parent root p n)
    (hq : cv.Survives parent root q m) (h : cv.place root p = cv.place root q) : p = q := by
  have hpq := (place_prefix_place hp hq).mp (h ▸ List.prefix_rfl)
  exact hpq.eq_of_length_le ((place_prefix_place hq hp).mp (h ▸ List.prefix_rfl)).length_le

/-! ## The correspondence -/

/-- The survivors of an input and the nodes of an output, in document order, with the place in the
output that goes with each position of a survivor. -/
structure Corresponds (cv : Converter) (parent : Option String) (root : Markup.Node)
    (out : Option Tree) (survivors : List (Position × Markup.Node))
    (nodes : List (Position × Tree)) (place : Position → Position) : Prop where
  all_survivors : ∀ p n, (p, n) ∈ survivors ↔ cv.Survives parent root p n
  survivors_in_order : (survivors.map Prod.fst).Pairwise (· < ·)
  all_nodes : nodes.map Prod.snd = Tree.nodesOf out
  nodes_found : ∀ q t, (q, t) ∈ nodes ↔ out.bind (·.at? q) = some t
  nodes_in_order : (nodes.map Prod.fst).Pairwise (· < ·)
  matched : List.Forall₂
    (fun s l => l.1 = place s.1 ∧ cv.Yields (root.around parent s.1) s.2 l.2) survivors nodes
  nested : ∀ s ∈ survivors, ∀ s' ∈ survivors, (place s.1 <+: place s'.1 ↔ s.1 <+: s'.1)

/-- The output of a node corresponds to its survivors. -/
theorem output_corresponds (hr : cv.registry.OfClasses) (parent : Option String)
    (root : Markup.Node) :
    ∃ survivors, cv.Corresponds parent root (cv.output parent root) survivors
      (Tree.locatedIn (cv.output parent root)) (cv.place root) := by
  have hpartner : ∀ l ∈ Tree.locatedIn (cv.output parent root), ∃ s : Position × Markup.Node,
      cv.Survives parent root s.1 s.2 ∧ cv.place root s.1 = l.1 ∧
        cv.Yields (root.around parent s.1) s.2 l.2 := by
    intro l hl
    have hl := Tree.mem_locatedIn.mp hl
    obtain ⟨p, n, hs, hp⟩ := exists_survivor hr hl
    obtain ⟨t, ht, hy⟩ := output_at_place hr hs
    rw [hp, hl] at ht
    exact ⟨(p, n), hs, hp, Option.some.inj ht ▸ hy⟩
  choose! partner hsurvives hplace hyields using hpartner
  refine ⟨(Tree.locatedIn (cv.output parent root)).map partner, ⟨fun p n => ⟨?_, ?_⟩, ?_,
    Tree.map_snd_locatedIn _, fun _ _ => Tree.mem_locatedIn, Tree.pairwise_locatedIn _, ?_, ?_⟩⟩
  · intro hm
    obtain ⟨l, hl, he⟩ := List.mem_map.mp hm
    have hs := hsurvives l hl
    rwa [he] at hs
  · -- the partner of the node at the place of a survivor is that survivor
    intro hs
    obtain ⟨t, ht, -⟩ := output_at_place hr hs
    have hm := Tree.mem_locatedIn.mpr ht
    have hs' := hsurvives _ hm
    have hp := place_inj hs' hs (hplace _ hm)
    have hn := hs'.found
    rw [hp, hs.found] at hn
    exact List.mem_map.mpr ⟨_, hm, Prod.ext hp (Option.some.inj hn).symm⟩
  · have hsorted := Tree.pairwise_locatedIn (cv.output parent root)
    rw [List.pairwise_map] at hsorted
    rw [List.map_map, List.pairwise_map]
    refine hsorted.imp_of_mem fun {l l'} hl hl' hlt => ?_
    rw [← hplace l hl, ← hplace l' hl'] at hlt
    exact (place_lt_place_iff (hsurvives l hl) (hsurvives l' hl')).mp hlt
  · rw [List.forall₂_map_left_iff, List.forall₂_same]
    exact fun l hl => ⟨(hplace l hl).symm, hyields l hl⟩
  · intro s hs s' hs'
    obtain ⟨l, hl, rfl⟩ := List.mem_map.mp hs
    obtain ⟨l', hl', rfl⟩ := List.mem_map.mp hs'
    exact place_prefix_place (hsurvives l hl) (hsurvives l' hl')

/-- With a registry of element classes and plain attribute values, converting a node never fails,
and the nodes of the output in document order correspond to the survivors of the input, one for one,
in the same order and nested in the same way. -/
theorem node_survivors (hr : cv.registry.OfClasses) (hroot : root.isPlain = true)
    (parent : Option String) (session : Session) :
    ∃ out, ((cv.node parent root).exec session).1 = .ok out ∧
      ∃ survivors nodes place, cv.Corresponds parent root out survivors nodes place := by
  obtain ⟨survivors, h⟩ := output_corresponds hr parent root
  rw [node_exec hr parent root hroot session]
  exact ⟨_, rfl, survivors, _, _, h⟩

/-- A class of void elements. -/
def badge : SemanticClass :=
  ⟨"Badge", [], .void, "X-Badge", .inline, []⟩

/-- A converter that knows this class. -/
def badgeConverter : Converter :=
  ⟨(Registry.add ⟨.ofClass badge, badge, Text.lower badge.tag, true⟩ .empty).1, true⟩

theorem ofClasses_badgeConverter : badgeConverter.registry.OfClasses :=
  .add .empty (Definition.make_of_declared rfl (by decide) none [])

/-- A void element with content between a blank and a text, in an element with a name in capitals. -/
def badgePage : Markup.Node :=
  .element "DIV" [("id", .text "a")] [.string .plain " ",
    .element "x-badge" [] [.string .plain "lost"], .string .plain " kept "]

theorem node_survivors_badgePage :
    badgeConverter.registry.OfClasses ∧ badgePage.isPlain = true ∧
      ∃ out, ((badgeConverter.node none badgePage).exec .initial).1 = .ok out ∧
        ∃ survivors nodes place,
          badgeConverter.Corresponds none badgePage out survivors nodes place := by
  have hplain : badgePage.isPlain = true := rfl
  exact ⟨ofClasses_badgeConverter, hplain,
    node_survivors ofClasses_badgeConverter hplain none .initial⟩

end Converter

end TypedMarkup
