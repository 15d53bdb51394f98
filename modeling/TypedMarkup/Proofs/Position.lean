import TypedMarkup.Markup.Node
import TypedMarkup.Semantic.Tree

/-!
# Positions in trees

A position says how to go down from the root: it is the list of the numbers of the children to take.
`at?` goes down by a position, in parsed markup and in output trees. Positions are compared as
texts are, so `p < q` says that `p` comes before `q` in document order, and `p <+: q` says that `p`
is an ancestor of `q` or `q` itself. `located` lists all nodes with the positions where they are
found (`mem_located`), in this order (`pairwise_located`); of an output tree they are
`Tree.preorder` (`map_snd_located`). `Position.below` puts what is listed for the children of a node
below the node; what holds of every such list, of markup as of output trees, follows from its
lemmas. As nodes are in lists of nodes, `Markup.Node.induction` and `Tree.induction` are induction
on a node with what holds of its children, and `Tree.forest_induction` is induction on a forest.
-/

namespace TypedMarkup

/-- A position in a tree: the numbers of the children to take, from the root down. -/
abbrev Position := List Nat

/-! ## Positions below a node -/

namespace Position

variable {α β : Type}

/-- What is listed with its positions in each of several trees, with the positions below an element
whose children they are from number `i` on. -/
def below (i : Nat) : List (List (Position × α)) → List (Position × α)
  | [] => []
  | ls :: lss => ls.map (fun l => (i :: l.1, l.2)) ++ below (i + 1) lss

theorem nil_not_mem_below (i : Nat) (lss : List (List (Position × α))) (a : α) :
    ([], a) ∉ below i lss := by
  induction lss generalizing i with
  | nil => simp [below]
  | cons ls lss ih => simp [below, ih]

/-- What stands below child `k` is what is listed in this child. -/
theorem mem_below {i k : Nat} {q : Position} {a : α} {lss : List (List (Position × α))} :
    (k :: q, a) ∈ below i lss ↔ i ≤ k ∧ ∃ ls, lss[k - i]? = some ls ∧ (q, a) ∈ ls := by
  induction lss generalizing i with
  | nil => simp [below]
  | cons ls lss ih =>
    have head : (k :: q, a) ∈ ls.map (fun l => (i :: l.1, l.2)) ↔ k = i ∧ (q, a) ∈ ls := by
      simp [eq_comm, and_left_comm, and_assoc]
    rw [below, List.mem_append, head, ih]
    rcases Nat.lt_trichotomy k i with h | rfl | h
    · simp [Nat.not_le.mpr h, Nat.ne_of_lt h, Nat.not_le.mpr (Nat.lt_succ_of_lt h)]
    · have hk : ¬ k + 1 ≤ k := Nat.not_succ_le_self k
      simp [hk]
    · have e : k - i = (k - (i + 1)) + 1 := by omega
      simp [Nat.ne_of_gt h, Nat.le_of_lt h, Nat.succ_le_of_lt h, e]

/-- The same when each list is that of a child. -/
theorem mem_below_map {k : Nat} {q : Position} {a : α} {f : β → List (Position × α)}
    {cs : List β} :
    (k :: q, a) ∈ below 0 (cs.map f) ↔ ∃ c, cs[k]? = some c ∧ (q, a) ∈ f c := by
  simp only [mem_below, Nat.zero_le, true_and, Nat.sub_zero, List.getElem?_map,
    Option.map_eq_some_iff]
  exact ⟨fun ⟨_, ⟨c, hc, h⟩, hm⟩ => ⟨c, hc, h ▸ hm⟩, fun ⟨c, hc, hm⟩ => ⟨_, ⟨c, hc, rfl⟩, hm⟩⟩

/-- Lists in document order come below a node in document order. -/
theorem pairwise_below (i : Nat) {lss : List (List (Position × α))}
    (h : ∀ ls ∈ lss, (ls.map Prod.fst).Pairwise (· < ·)) :
    ((below i lss).map Prod.fst).Pairwise (· < ·) := by
  induction lss generalizing i with
  | nil => exact List.Pairwise.nil
  | cons ls lss ih =>
    obtain ⟨hls, hlss⟩ := List.forall_mem_cons.mp h
    rw [below, List.map_append, List.map_map, List.pairwise_append]
    refine ⟨?_, ih (i + 1) hlss, fun p hp q hq => ?_⟩
    · rw [List.pairwise_map] at hls ⊢
      exact hls.imp fun hlt => List.cons_lt_cons_iff.mpr (.inr ⟨rfl, hlt⟩)
    · -- the positions in the first list begin with `i`, those in the others with a greater number
      obtain ⟨l, -, rfl⟩ := List.mem_map.mp hp
      obtain ⟨⟨q, a⟩, hm, rfl⟩ := List.mem_map.mp hq
      cases q with
      | nil => exact absurd hm (nil_not_mem_below (i + 1) lss a)
      | cons k q => exact List.cons_lt_cons_iff.mpr (.inl (mem_below.mp hm).1)

/-- So they do behind the node itself. -/
theorem pairwise_cons_below (a : α) {lss : List (List (Position × α))}
    (h : ∀ ls ∈ lss, (ls.map Prod.fst).Pairwise (· < ·)) :
    ((([], a) :: below 0 lss).map Prod.fst).Pairwise (· < ·) := by
  rw [List.map_cons, List.pairwise_cons]
  refine ⟨fun q hq => ?_, pairwise_below 0 h⟩
  obtain ⟨⟨q, b⟩, hm, rfl⟩ := List.mem_map.mp hq
  cases q with
  | nil => exact absurd hm (nil_not_mem_below 0 lss b)
  | cons k q => exact List.nil_lt_cons k q

/-- Without the positions nothing but the lists is left. -/
theorem map_snd_below (f : α → β) (i : Nat) (lss : List (List (Position × α))) :
    (below i lss).map (fun l => f l.2) = lss.flatMap fun ls => ls.map fun l => f l.2 := by
  induction lss generalizing i with
  | nil => rfl
  | cons ls lss ih =>
    rw [below, List.map_append, List.map_map, ih, List.flatMap_cons]
    rfl

end Position

/-! ## Going down -/

namespace Markup.Node

/-- The name of an element. -/
def name? : Node → Option String
  | element name .. => some name
  | string .. | foreign _ | absent => none

mutual

/-- Induction on nodes: what holds of a node as soon as it holds of its children holds of all. -/
@[elab_as_elim]
theorem induction {motive : Node → Prop}
    (step : ∀ n, (∀ c ∈ n.children, motive c) → motive n) : (n : Node) → motive n
  | element _ _ cs => step _ (forall_mem_induction step cs)
  | string .. => step _ fun _ h => absurd h List.not_mem_nil
  | foreign _ => step _ fun _ h => absurd h List.not_mem_nil
  | absent => step _ fun _ h => absurd h List.not_mem_nil

theorem forall_mem_induction {motive : Node → Prop}
    (step : ∀ n, (∀ c ∈ n.children, motive c) → motive n) : (ns : List Node) →
      ∀ n ∈ ns, motive n
  | [] => fun _ h => absurd h List.not_mem_nil
  | n :: ns => List.forall_mem_cons.mpr ⟨induction step n, forall_mem_induction step ns⟩

end

/-- The node at a position. -/
def at? (n : Node) : Position → Option Node
  | [] => some n
  | i :: p => n.children[i]?.bind fun c => c.at? p

@[simp] theorem at?_nil (n : Node) : n.at? [] = some n := rfl

theorem at?_cons (n : Node) (i : Nat) (p : Position) :
    n.at? (i :: p) = n.children[i]?.bind fun c => c.at? p := rfl

theorem at?_append {n m : Node} {p : Position} (h : n.at? p = some m) (q : Position) :
    n.at? (p ++ q) = m.at? q := by
  induction p generalizing n with
  | nil => rw [← Option.some.inj h, List.nil_append]
  | cons i p ih =>
    rw [at?_cons, Option.bind_eq_some_iff] at h
    obtain ⟨c, hc, hm⟩ := h
    rw [List.cons_append, at?_cons, hc, Option.bind_some, ih hm]

mutual

/-- The nodes of parsed markup with their positions, in document order. -/
def located : Node → List (Position × Node)
  | element name attributes cs =>
    ([], element name attributes cs) :: Position.below 0 (allLocated cs)
  | string sort data => [([], string sort data)]
  | foreign typeName => [([], foreign typeName)]
  | absent => [([], absent)]

/-- The same for each of several nodes. -/
def allLocated : List Node → List (List (Position × Node))
  | [] => []
  | n :: ns => located n :: allLocated ns

end

theorem allLocated_eq_map (ns : List Node) : allLocated ns = ns.map located := by
  induction ns with
  | nil => rfl
  | cons n ns ih => rw [allLocated, ih, List.map_cons]

theorem located_eq_cons (n : Node) :
    n.located = ([], n) :: Position.below 0 (n.children.map located) := by
  cases n with
  | element name attributes cs => rw [located, allLocated_eq_map]; rfl
  | string | foreign | absent => rfl

/-- The nodes are listed with the positions where they are found. -/
theorem mem_located (n : Node) (q : Position) (m : Node) :
    (q, m) ∈ n.located ↔ n.at? q = some m := by
  induction n using induction generalizing q with
  | step n ih =>
    rw [located_eq_cons, List.mem_cons]
    cases q with
    | nil => simp [Position.nil_not_mem_below, eq_comm]
    | cons k q =>
      rw [Position.mem_below_map, at?_cons, Option.bind_eq_some_iff]
      simp only [Prod.mk.injEq, List.cons_ne_nil, false_and, false_or]
      exact exists_congr fun c => and_congr_right fun hc => ih c (List.mem_of_getElem? hc) q

/-- The positions are listed in document order. -/
theorem pairwise_located (n : Node) : (n.located.map Prod.fst).Pairwise (· < ·) := by
  induction n using induction with
  | step n ih =>
    rw [located_eq_cons]
    exact Position.pairwise_cons_below n (List.forall_mem_map.mpr ih)

end Markup.Node

namespace Tree

mutual

/-- Induction on trees: what holds of a tree as soon as it holds of its children holds of all. -/
@[elab_as_elim]
theorem induction {motive : Tree → Prop}
    (step : ∀ t, (∀ c ∈ t.children, motive c) → motive t) : (t : Tree) → motive t
  | element _ _ _ cs => step _ (forall_mem_induction step cs)
  | text _ => step _ fun _ h => absurd h List.not_mem_nil
  | comment _ => step _ fun _ h => absurd h List.not_mem_nil
  | rawData _ => step _ fun _ h => absurd h List.not_mem_nil

theorem forall_mem_induction {motive : Tree → Prop}
    (step : ∀ t, (∀ c ∈ t.children, motive c) → motive t) : (ts : List Tree) →
      ∀ t ∈ ts, motive t
  | [] => fun _ h => absurd h List.not_mem_nil
  | t :: ts => List.forall_mem_cons.mpr ⟨induction step t, forall_mem_induction step ts⟩

end

/-- The node at a position, with all below it. -/
def at? (t : Tree) : Position → Option Tree
  | [] => some t
  | i :: p => t.children[i]?.bind fun c => c.at? p

@[simp] theorem at?_nil (t : Tree) : t.at? [] = some t := rfl

theorem at?_cons (t : Tree) (i : Nat) (p : Position) :
    t.at? (i :: p) = t.children[i]?.bind fun c => c.at? p := rfl

mutual

/-- The nodes of a tree with their positions, in document order. -/
def located : Tree → List (Position × Tree)
  | element type tag attributes cs => ([], element type tag attributes cs) :: locatedFrom 0 cs
  | text data => [([], text data)]
  | comment data => [([], comment data)]
  | rawData data => [([], rawData data)]

/-- The nodes of several trees with their positions below an element whose children they are from
number `i` on. -/
def locatedFrom (i : Nat) : List Tree → List (Position × Tree)
  | [] => []
  | t :: ts => (located t).map (fun l => (i :: l.1, l.2)) ++ locatedFrom (i + 1) ts

end

mutual

/-- Without the positions this is the list of the nodes in document order. -/
theorem map_snd_located : (t : Tree) → t.located.map Prod.snd = t.preorder
  | element _ _ _ cs => by
    rw [located, preorder, List.map_cons, map_snd_locatedFrom 0 cs]
  | text _ => rfl
  | comment _ => rfl
  | rawData _ => rfl

theorem map_snd_locatedFrom (i : Nat) : (ts : List Tree) →
    (locatedFrom i ts).map Prod.snd = preorders ts
  | [] => rfl
  | t :: ts => by
    rw [locatedFrom, preorders, List.map_append, List.map_map, map_snd_locatedFrom (i + 1) ts,
      ← map_snd_located t]
    rfl

end

theorem locatedFrom_eq_below (i : Nat) (ts : List Tree) :
    locatedFrom i ts = Position.below i (ts.map located) := by
  induction ts generalizing i with
  | nil => rfl
  | cons t ts ih => rw [locatedFrom, ih, List.map_cons, Position.below]

theorem located_eq_cons (t : Tree) :
    t.located = ([], t) :: Position.below 0 (t.children.map located) := by
  cases t with
  | element type tag attributes cs => rw [located, locatedFrom_eq_below]; rfl
  | text | comment | rawData => rfl

/-- The nodes are listed with the positions where they are found. -/
theorem mem_located (t : Tree) (q : Position) (u : Tree) :
    (q, u) ∈ t.located ↔ t.at? q = some u := by
  induction t using induction generalizing q with
  | step t ih =>
    rw [located_eq_cons, List.mem_cons]
    cases q with
    | nil => simp [Position.nil_not_mem_below, eq_comm]
    | cons k q =>
      rw [Position.mem_below_map, at?_cons, Option.bind_eq_some_iff]
      simp only [Prod.mk.injEq, List.cons_ne_nil, false_and, false_or]
      exact exists_congr fun c => and_congr_right fun hc => ih c (List.mem_of_getElem? hc) q

theorem preorder_eq_cons (t : Tree) : t.preorder = t :: t.descendants := by
  cases t <;> rfl

/-! ## Forests -/

/-- Induction on forests: what holds of the children of the first tree and of the other trees holds
of all of them. -/
@[elab_as_elim]
theorem forest_induction {motive : List Tree → Prop} (nil : motive [])
    (cons : ∀ t ts, motive t.children → motive ts → motive (t :: ts)) (ts : List Tree) :
    motive ts := by
  have forest : ∀ us : List Tree, (∀ u ∈ us, motive u.children) → motive us := by
    intro us h
    induction us with
    | nil => exact nil
    | cons u us ih =>
      obtain ⟨hu, hus⟩ := List.forall_mem_cons.mp h
      exact cons u us hu (ih hus)
  exact forest ts fun t _ => t.induction fun u hu => forest u.children hu

theorem locatedFrom_cons (i : Nat) (t : Tree) (ts : List Tree) :
    locatedFrom i (t :: ts) =
      ([i], t) :: (locatedFrom 0 t.children).map (fun l => (i :: l.1, l.2)) ++
        locatedFrom (i + 1) ts := by
  cases t <;> rfl

/-- The node of a forest at a position, whose first number says in which of the trees it is. -/
def forestAt? (ts : List Tree) : Position → Option Tree
  | [] => none
  | i :: p => ts[i]?.bind fun t => t.at? p

/-- The nodes of a forest are listed with the positions where they are found. -/
theorem mem_locatedFrom {ts : List Tree} {p : Position} {t : Tree} :
    (p, t) ∈ locatedFrom 0 ts ↔ forestAt? ts p = some t := by
  rw [locatedFrom_eq_below]
  cases p with
  | nil => simp [forestAt?, Position.nil_not_mem_below]
  | cons i p =>
    rw [Position.mem_below_map, forestAt?, Option.bind_eq_some_iff]
    exact exists_congr fun u => and_congr_right fun _ => mem_located u p t

/-! ## Document order -/

/-- The positions are listed in document order. -/
theorem pairwise_located (t : Tree) : (t.located.map Prod.fst).Pairwise (· < ·) := by
  induction t using induction with
  | step t ih =>
    rw [located_eq_cons]
    exact Position.pairwise_cons_below t (List.forall_mem_map.mpr ih)

/-! ## Outputs -/

/-- The nodes of an output, which may be missing: the root and then its descendants. -/
def nodesOf : Option Tree → List Tree
  | some t => t :: t.descendants
  | none => []

/-- The same with their positions. -/
def locatedIn : Option Tree → List (Position × Tree)
  | some t => t.located
  | none => []

theorem map_snd_locatedIn (out : Option Tree) :
    (locatedIn out).map Prod.snd = nodesOf out := by
  cases out with
  | none => rfl
  | some t => rw [locatedIn, map_snd_located, preorder_eq_cons, nodesOf]

theorem mem_locatedIn {out : Option Tree} {q : Position} {u : Tree} :
    (q, u) ∈ locatedIn out ↔ out.bind (·.at? q) = some u := by
  cases out with
  | none => simp [locatedIn]
  | some t => exact mem_located t q u

theorem pairwise_locatedIn (out : Option Tree) :
    ((locatedIn out).map Prod.fst).Pairwise (· < ·) := by
  cases out with
  | none => exact List.Pairwise.nil
  | some t => exact pairwise_located t

end Tree

end TypedMarkup
