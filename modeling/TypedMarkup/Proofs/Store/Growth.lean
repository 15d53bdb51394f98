import TypedMarkup.Store.Walk
import TypedMarkup.Proofs.Store.Forest

/-!
# Trees of new nodes

How a tree of new nodes grows in a store that may hold others. `Grown s t` says that all nodes of
`s` are in `t` as they were, and `TreeFrom r t` that the nodes of `t` from number `r` on are a tree
with the root `r`, which has no parent yet. As nodes are numbered in the order in which they are
made, a parent always has a lower number than its children: nothing else is needed against cycles
(`TreeFrom.not_ancestor_self`).

* `TreeFrom.append`: putting a tree of newer nodes behind the children of the root gives such a tree
  again, and never fails;
* `Holds s n tree`: the nodes from `n` down are those of an output tree, which `tree?` then reads
  off (`tree?_of_holds`).
-/

namespace TypedMarkup.Store

variable {s t u : Store} {r n p : NodeId}

/-! ## Old nodes -/

/-- All links stay among the nodes of the store. -/
structure Closed (s : Store) : Prop where
  parent? : ∀ {x p : NodeId}, s.parent? x = some p → p < s.size
  children : ∀ {x p : NodeId}, x ∈ s.children p → x < s.size

theorem Sound.closed (h : Sound s) : Closed s where
  parent? hx := lt_size_of_isContainer (h.isContainer hx)
  children hx := lt_size_of_parent? (h.parent? hx)

/-- The nodes of `s` are in `t` as they were; `t` may have new ones. -/
structure Grown (s t : Store) : Prop where
  size : s.size ≤ t.size
  cell : ∀ x < s.size, t.cells[x]? = s.cells[x]?

namespace Grown

theorem refl (s : Store) : Grown s s :=
  ⟨Nat.le_refl _, fun _ _ => rfl⟩

theorem trans (h : Grown s t) (k : Grown t u) : Grown s u :=
  ⟨Nat.le_trans h.size k.size,
    fun x hx => (k.cell x (Nat.lt_of_lt_of_le hx h.size)).trans (h.cell x hx)⟩

theorem create (s : Store) (body : Body) : Grown s (s.create body).2 where
  size := by rw [size_create]; exact Nat.le_succ _
  cell x hx := by rw [getElem?_create, if_neg (Nat.ne_of_lt hx)]

theorem body? (h : Grown s t) {x : NodeId} (hx : x < s.size) : t.body? x = s.body? x := by
  simp only [Store.body?, h.cell x hx]

theorem parent? (h : Grown s t) {x : NodeId} (hx : x < s.size) : t.parent? x = s.parent? x := by
  simp only [Store.parent?, h.cell x hx]

theorem children (h : Grown s t) {x : NodeId} (hx : x < s.size) :
    t.children x = s.children x := by
  simp only [children_eq, h.cell x hx]

theorem isContainer (h : Grown s t) {x : NodeId} (hx : x < s.size) :
    t.isContainer x = s.isContainer x :=
  isContainer_congr (h.body? hx)

end Grown

/-! ## New nodes -/

/-- The nodes from number `r` on are a tree with the root `r`, which has no parent: each other node
is listed by its parent, which has a lower number, and by no other of these nodes; and the
attributes of each node belong to it. -/
structure TreeFrom (r : NodeId) (t : Store) : Prop where
  root : r < t.size
  detached : t.parent? r = none
  linked : ∀ x, r < x → x < t.size → ∃ p, r ≤ p ∧ t.parent? x = some p ∧ x ∈ t.children p
  listed : ∀ p, r ≤ p → ∀ x ∈ t.children p,
    p < x ∧ x < t.size ∧ t.parent? x = some p ∧ t.isContainer p = true
  nodup : ∀ p, r ≤ p → (t.children p).Nodup
  owned : ∀ x, r ≤ x → ∀ as, t.attributes? x = some as → ∀ a ∈ as, a.owner = some x

/-- A parent among the new nodes has a lower number. -/
theorem TreeFrom.parent?_lt (h : TreeFrom r t) {x : NodeId} (hx : r ≤ x)
    (hp : t.parent? x = some p) : r ≤ p ∧ p < x := by
  rcases Nat.eq_or_lt_of_le hx with rfl | hlt
  · simp [h.detached] at hp
  · obtain ⟨q, hq, hxq, hm⟩ := h.linked x hlt (lt_size_of_parent? hp)
    obtain rfl : q = p := Option.some.inj (hxq.symm.trans hp)
    exact ⟨hq, (h.listed q hq x hm).1⟩

/-- So has every ancestor. -/
theorem TreeFrom.ancestor_lt (h : TreeFrom r t) {x a : NodeId} (hx : r ≤ x)
    (ha : t.Ancestor a x) : r ≤ a ∧ a < x := by
  induction ha with
  | single step => exact h.parent?_lt hx step
  | tail _ step ih =>
    obtain ⟨hq, hlt⟩ := h.parent?_lt ih.1 step
    exact ⟨hq, Nat.lt_trans hlt ih.2⟩

theorem TreeFrom.not_ancestor_self (h : TreeFrom r t) {x : NodeId} (hx : r ≤ x) :
    ¬ t.Ancestor x x := fun hxx =>
  Nat.lt_irrefl x (h.ancestor_lt hx hxx).2

/-- Going up from a new node leads to the root, by induction on its number. -/
theorem TreeFrom.upTo_root (h : TreeFrom r t) {x : NodeId} (hx : r ≤ x) (hlt : x < t.size) :
    t.UpTo x r := by
  induction x using Nat.strongRecOn with
  | _ x ih =>
    rcases Nat.eq_or_lt_of_le hx with rfl | hrx
    · exact .refl
    · obtain ⟨p, hp, hxp, hm⟩ := h.linked x hrx hlt
      have hpx := (h.listed p hp x hm).1
      exact .head hxp (ih p hpx hp (Nat.lt_trans hpx hlt))

theorem children_create_self (s : Store) (body : Body) :
    (s.create body).2.children s.size = [] := by
  rw [children_create, children_eq, getElem?_eq_none (Nat.lt_irrefl _)]
  rfl

/-- A new node on its own is a tree. -/
theorem treeFrom_create (s : Store) {body : Body}
    (owned : ∀ type tag as, body = .element type tag as → ∀ a ∈ as, a.owner = some s.size) :
    TreeFrom s.size (s.create body).2 := by
  have new {x : NodeId} (hx : s.size ≤ x) (hlt : x < (s.create body).2.size) : x = s.size := by
    rw [size_create] at hlt
    exact Nat.le_antisymm (Nat.lt_succ_iff.mp hlt) hx
  have none_listed {p : NodeId} (hp : s.size ≤ p) : (s.create body).2.children p = [] := by
    rw [children_create, children_eq, getElem?_eq_none (Nat.not_lt.mpr hp)]
    rfl
  refine ⟨by simp, ?_, fun x hx hlt => ?_, fun p hp x hx => ?_, fun p hp => ?_,
    fun x hx as has => ?_⟩
  · rw [parent?_create, parent?, getElem?_eq_none (Nat.lt_irrefl _)]
    rfl
  · exact absurd (new (Nat.le_of_lt hx) hlt) (Nat.ne_of_gt hx)
  · simp [none_listed hp] at hx
  · simp [none_listed hp]
  · rw [attributes?, body?_create] at has
    split at has
    case h_2 => simp at has
    rename_i type tag bs hb
    obtain rfl := Option.some.inj has
    by_cases hxs : x = s.size
    · rw [if_pos hxs, Option.some.injEq] at hb
      rw [hxs]
      exact owned type tag bs hb
    · rw [if_neg hxs] at hb
      simp [body?, getElem?_eq_none (Nat.not_lt.mpr hx)] at hb

/-- A node without a parent is put behind the children of a container, whatever else the store
holds. -/
theorem appendChild_of_detached {c : NodeId} (hp : s.isContainer p = true)
    (hc : s.parent? c = none) :
    s.appendChild p c =
      ⟨(s.setParent c (some p)).setChildren p (s.children p ++ [c]), none⟩ := by
  simp [appendChild, hp, detach, hc]

/-! ## Growth -/

/-- `v` is `u` with a tree of newer nodes behind the children of `r`; `t` is the store before this
tree was made, so that its root has the number `t.size`. -/
structure Adopts (r : NodeId) (t u v : Store) : Prop where
  size : v.size = u.size
  cell : ∀ x < r, v.cells[x]? = u.cells[x]?
  body? : ∀ x, v.body? x = u.body? x
  parent? : ∀ x, v.parent? x = if x = t.size then some r else u.parent? x
  children : ∀ x, v.children x = if x = r then t.children r ++ [t.size] else u.children x

/-- Putting the newer tree behind the children of `r` cannot fail. -/
theorem appendChild_adopts (ht : TreeFrom r t) (hr : t.isContainer r = true) (hu : Grown t u)
    (hc : TreeFrom t.size u) : ∃ v, u.appendChild r t.size = ⟨v, none⟩ ∧ Adopts r t u v := by
  have hru : r < u.size := Nat.lt_of_lt_of_le ht.root hu.size
  have hcontainer : u.isContainer r = true := by rw [hu.isContainer ht.root, hr]
  refine ⟨_, appendChild_of_detached hcontainer hc.detached, by simp, fun x hx => ?_, by simp,
    fun x => ?_, fun x => ?_⟩
  · rw [getElem?_setChildren, if_neg (Nat.ne_of_gt hx), getElem?_setParent,
      if_neg (Nat.ne_of_gt (Nat.lt_trans hx ht.root))]
  · rw [parent?_setChildren, parent?_setParent _ _ hc.root]
  · rw [children_setChildren _ _ (by simpa using hru), children_setParent, hu.children ht.root]

/-- The older nodes of the tree keep their parents. -/
theorem Adopts.parent?_old {v : Store} (h : Adopts r t u v) (hu : Grown t u) {x : NodeId}
    (hx : x < t.size) : v.parent? x = t.parent? x := by
  rw [h.parent?, if_neg (Nat.ne_of_lt hx), hu.parent? hx]

/-- Growing by a tree of newer nodes gives a tree again. -/
theorem TreeFrom.adopt {v : Store} (ht : TreeFrom r t) (hr : t.isContainer r = true)
    (hu : Grown t u) (hc : TreeFrom t.size u) (h : Adopts r t u v) : TreeFrom r v := by
  have hold {x : NodeId} (hx : x < t.size) := h.parent?_old hu hx
  have hcontainer {x : NodeId} : v.isContainer x = u.isContainer x := isContainer_congr (h.body? x)
  have hnew : v.parent? t.size = some r := by rw [h.parent?, if_pos rfl]
  -- what a node of the older tree lists it still lists, and what one of the newer tree lists too
  have hmem {x p : NodeId} (hp : p < t.size) (hx : x ∈ t.children p) : x ∈ v.children p := by
    rw [h.children]
    split
    · subst p; exact List.mem_append_left _ hx
    · rwa [hu.children hp]
  have hne {p : NodeId} (hp : t.size ≤ p) : p ≠ r := Nat.ne_of_gt (Nat.lt_of_lt_of_le ht.root hp)
  refine ⟨h.size ▸ Nat.lt_of_lt_of_le ht.root hu.size, by rw [hold ht.root, ht.detached],
    fun x hx hlt => ?linked, fun p hp x hx => ?listed, fun p hp => ?nodup, fun x hx as has => ?owned⟩
  case linked =>
    rcases Nat.lt_trichotomy x t.size with hxt | rfl | hxt
    · obtain ⟨p, hp, hxp, hm⟩ := ht.linked x hx hxt
      have hpt := Nat.lt_trans (ht.listed p hp x hm).1 hxt
      exact ⟨p, hp, by rw [hold hxt, hxp], hmem hpt hm⟩
    · exact ⟨r, Nat.le_refl r, hnew, by rw [h.children, if_pos rfl]; simp⟩
    · obtain ⟨p, hp, hxp, hm⟩ := hc.linked x hxt (h.size ▸ hlt)
      refine ⟨p, Nat.le_trans (Nat.le_of_lt ht.root) hp, ?_, ?_⟩
      · rw [h.parent?, if_neg (Nat.ne_of_gt hxt), hxp]
      · rwa [h.children, if_neg (hne hp)]
  case listed =>
    have older {x p : NodeId} (hp : r ≤ p) (hx : x ∈ t.children p) :
        p < x ∧ x < v.size ∧ v.parent? x = some p ∧ v.isContainer p = true := by
      obtain ⟨hpx, hxt, hxp, hpc⟩ := ht.listed p hp x hx
      refine ⟨hpx, h.size ▸ Nat.lt_of_lt_of_le hxt hu.size, by rw [hold hxt, hxp], ?_⟩
      rw [hcontainer, hu.isContainer (Nat.lt_trans hpx hxt), hpc]
    rw [h.children] at hx
    split at hx
    · subst p
      rcases List.mem_append.mp hx with hx | hx
      · exact older hp hx
      · rw [List.mem_singleton.mp hx]
        refine ⟨ht.root, h.size ▸ hc.root, hnew, ?_⟩
        rw [hcontainer, hu.isContainer ht.root, hr]
    · rcases Nat.lt_or_ge p t.size with hpt | hpt
      · exact older hp (hu.children hpt ▸ hx)
      · obtain ⟨hpx, hxu, hxp, hpc⟩ := hc.listed p hpt x hx
        refine ⟨hpx, h.size ▸ hxu, ?_, by rw [hcontainer, hpc]⟩
        rw [h.parent?, if_neg (Nat.ne_of_gt (Nat.lt_of_le_of_lt hpt hpx)), hxp]
  case nodup =>
    rw [h.children]
    split
    · -- the nodes listed so far are older than the new one
      refine List.nodup_append.mpr ⟨ht.nodup r (Nat.le_refl r), List.pairwise_singleton _ _, ?_⟩
      intro x hx y hy e
      rw [e, List.mem_singleton.mp hy] at hx
      exact Nat.lt_irrefl _ (ht.listed r (Nat.le_refl r) _ hx).2.1
    · rcases Nat.lt_or_ge p t.size with hpt | hpt
      · rw [hu.children hpt]; exact ht.nodup p hp
      · exact hc.nodup p hpt
  case owned =>
    rw [attributes?, h.body?] at has
    rcases Nat.lt_or_ge x t.size with hxt | hxt
    · exact ht.owned x hx as (by rwa [attributes?, ← hu.body? hxt])
    · exact hc.owned x hxt as (by rwa [attributes?])

/-! ## The output tree of new nodes -/

mutual

/-- The node `n` and those below it are the nodes of an output tree. -/
def Holds (s : Store) (n : NodeId) : Tree → Prop
  | .text data => s.body? n = some (.text data)
  | .comment data => s.body? n = some (.comment data)
  | .rawData data => s.body? n = some (.rawData data)
  | .element type tag attributes cs =>
    (∃ as, s.body? n = some (.element type tag as) ∧ as.pairs = attributes) ∧
      HoldsAll s (s.children n) cs

/-- The nodes of a list and those below them are the nodes of output trees, one for one. -/
def HoldsAll (s : Store) (ns : List NodeId) : List Tree → Prop
  | [] => ns = []
  | t :: ts => ∃ m ms, ns = m :: ms ∧ Holds s m t ∧ HoldsAll s ms ts

end

theorem HoldsAll.append {ns : List NodeId} {ts : List Tree} {tree : Tree} (h : HoldsAll s ns ts)
    (hn : Holds s n tree) : HoldsAll s (ns ++ [n]) (ts ++ [tree]) := by
  induction ts generalizing ns with
  | nil =>
    rw [HoldsAll] at h
    rw [h]
    exact ⟨n, [], rfl, hn, rfl⟩
  | cons t ts ih =>
    obtain ⟨m, ms, rfl, hm, hms⟩ := h
    exact ⟨m, ms ++ [n], rfl, hm, ih hms⟩

/-- From number `lo` on, children are nodes of the store with higher numbers than their parents. -/
def Descends (s : Store) (lo : NodeId) : Prop :=
  ∀ p, lo ≤ p → ∀ x ∈ s.children p, p < x ∧ x < s.size

theorem TreeFrom.descends (h : TreeFrom r t) {lo : NodeId} (hlo : r ≤ lo) : Descends t lo :=
  fun p hp x hx => by
    obtain ⟨hpx, hlt, -⟩ := h.listed p (Nat.le_trans hlo hp) x hx
    exact ⟨hpx, hlt⟩

mutual

/-- What a store holds from number `lo` on depends only on the nodes from there on. -/
theorem Holds.congr {v : Store} {lo : NodeId} (down : Descends s lo)
    (same : ∀ x, lo ≤ x → x < s.size → v.body? x = s.body? x ∧ v.children x = s.children x) :
    (tree : Tree) → (n : NodeId) → lo ≤ n → n < s.size → Holds s n tree → Holds v n tree
  | .text data, n, hn, hlt, h => ((same n hn hlt).1.trans h : _)
  | .comment data, n, hn, hlt, h => ((same n hn hlt).1.trans h : _)
  | .rawData data, n, hn, hlt, h => ((same n hn hlt).1.trans h : _)
  | .element type tag attributes cs, n, hn, hlt, h => by
    rw [Holds] at h ⊢
    rw [(same n hn hlt).1, (same n hn hlt).2]
    refine ⟨h.1, HoldsAll.congr down same cs (s.children n) (fun x hx => ?_) h.2⟩
    obtain ⟨hnx, hxs⟩ := down n hn x hx
    exact ⟨Nat.le_trans hn (Nat.le_of_lt hnx), hxs⟩

theorem HoldsAll.congr {v : Store} {lo : NodeId} (down : Descends s lo)
    (same : ∀ x, lo ≤ x → x < s.size → v.body? x = s.body? x ∧ v.children x = s.children x) :
    (ts : List Tree) → (ns : List NodeId) → (∀ n ∈ ns, lo ≤ n ∧ n < s.size) →
      HoldsAll s ns ts → HoldsAll v ns ts
  | [], ns, _, h => h
  | t :: ts, ns, hns, h => by
    obtain ⟨m, ms, rfl, hm, hms⟩ := h
    obtain ⟨hlo, hlt⟩ := hns m List.mem_cons_self
    exact ⟨m, ms, rfl, Holds.congr down same t m hlo hlt hm,
      HoldsAll.congr down same ts ms (fun x hx => hns x (List.mem_cons_of_mem m hx)) hms⟩

end

mutual

/-- Reading off the tree of a node comes to all of it when the depth is at least the number of nodes
with higher numbers. -/
theorem treeTo_of_holds {lo : NodeId} (down : Descends s lo) :
    (tree : Tree) → (n depth : Nat) → lo ≤ n → n < s.size → s.size ≤ n + depth + 1 →
      Holds s n tree → s.treeTo depth n = some tree
  | .text data, n, depth, _, _, _, h => by
    rw [Holds] at h
    unfold treeTo
    simp only [h]
  | .comment data, n, depth, _, _, _, h => by
    rw [Holds] at h
    unfold treeTo
    simp only [h]
  | .rawData data, n, depth, _, _, _, h => by
    rw [Holds] at h
    unfold treeTo
    simp only [h]
  | .element type tag attributes cs, n, depth, hn, hlt, hdepth, h => by
    obtain ⟨⟨as, hbody, rfl⟩, hcs⟩ := h
    unfold treeTo
    simp only [hbody]
    cases depth with
    | zero =>
      -- a child would have a higher number than any node
      have hnone : s.children n = [] := List.eq_nil_iff_forall_not_mem.mpr fun x hx => by
        obtain ⟨hnx, hxs⟩ := down n hn x hx
        exact Nat.lt_irrefl _ (Nat.lt_of_lt_of_le hxs (Nat.le_trans hdepth hnx))
      rw [hnone] at hcs
      cases cs with
      | nil => rfl
      | cons t ts =>
        obtain ⟨m, ms, h, -⟩ := hcs
        exact absurd h (by simp)
    | succ depth =>
      simp only
      rw [filterMap_treeTo_of_holdsAll down cs (s.children n) depth (fun x hx => ?_) hcs]
      obtain ⟨hnx, hxs⟩ := down n hn x hx
      refine ⟨Nat.le_trans hn (Nat.le_of_lt hnx), hxs, ?_⟩
      have : s.size ≤ n + 1 + depth + 1 := by rw [Nat.add_right_comm n 1]; exact hdepth
      exact Nat.le_trans this (Nat.succ_le_succ (Nat.add_le_add_right hnx depth))

theorem filterMap_treeTo_of_holdsAll {lo : NodeId} (down : Descends s lo) :
    (ts : List Tree) → (ns : List NodeId) → (depth : Nat) →
      (∀ n ∈ ns, lo ≤ n ∧ n < s.size ∧ s.size ≤ n + depth + 1) → HoldsAll s ns ts →
      ns.filterMap (fun n => s.treeTo depth n) = ts
  | [], ns, _, _, h => by
    rw [HoldsAll] at h
    rw [h]
    rfl
  | t :: ts, ns, depth, hns, h => by
    obtain ⟨m, ms, rfl, hm, hms⟩ := h
    obtain ⟨hlo, hlt, hdepth⟩ := hns m List.mem_cons_self
    rw [List.filterMap_cons, treeTo_of_holds down t m depth hlo hlt hdepth hm,
      filterMap_treeTo_of_holdsAll down ts ms depth
        (fun x hx => hns x (List.mem_cons_of_mem m hx)) hms]

end

/-- Where children have higher numbers than their parents the tree that a node holds is the one that
is read off. -/
theorem tree?_of_holds {lo : NodeId} (down : Descends s lo) {tree : Tree} (hn : lo ≤ n)
    (hlt : n < s.size) (h : Holds s n tree) : s.tree? n = some tree :=
  treeTo_of_holds down tree n s.size hn hlt (Nat.le_succ_of_le (Nat.le_add_left _ _)) h

/-- The tree that a new node holds is the one that is read off. -/
theorem TreeFrom.tree?_of_holds (h : TreeFrom r t) {tree : Tree} (holds : Holds t r tree) :
    t.tree? r = some tree :=
  Store.tree?_of_holds (h.descends (Nat.le_refl r)) (Nat.le_refl r) h.root holds

/-! ## An element that gets its children -/

/-- While its children are made, the element with the number `s.size` is the root of a tree of new
nodes, and its children so far hold the trees `ts`. -/
structure Filling (s : Store) (body : Body) (ts : List Tree) (t : Store) : Prop where
  grown : Grown s t
  tree : TreeFrom s.size t
  body? : t.body? s.size = some body
  holds : HoldsAll t (t.children s.size) ts

theorem filling_create (s : Store) {body : Body}
    (owned : ∀ type tag as, body = .element type tag as → ∀ a ∈ as, a.owner = some s.size) :
    Filling s body [] (s.create body).2 where
  grown := .create s body
  tree := treeFrom_create s owned
  body? := by rw [body?_create, if_pos rfl]
  holds := children_create_self s body

/-- One more child: a tree of newer nodes is put behind the children so far. -/
theorem Filling.append {body : Body} {ts : List Tree} {tree : Tree} (h : Filling s body ts t)
    (hbody : body.ownsChildren = true) (hu : Grown t u) (hc : TreeFrom t.size u)
    (holds : Holds u t.size tree) :
    ∃ v, u.appendChild s.size t.size = ⟨v, none⟩ ∧ Filling s body (ts ++ [tree]) v := by
  have hr : t.isContainer s.size = true := by rw [isContainer, h.body?]; exact hbody
  obtain ⟨v, hv, hadopts⟩ := appendChild_adopts h.tree hr hu hc
  have hroot := h.tree.root
  refine ⟨v, hv, ⟨?_, fun x hx => ?_⟩, h.tree.adopt hr hu hc hadopts, ?_, ?_⟩
  · rw [hadopts.size]
    exact Nat.le_trans h.grown.size hu.size
  · rw [hadopts.cell x hx, hu.cell x (Nat.lt_trans hx hroot), h.grown.cell x hx]
  · rw [hadopts.body?, hu.body? hroot, h.body?]
  · rw [hadopts.children, if_pos rfl]
    refine HoldsAll.append ?_ ?_
    · -- the older children and what is below them are as they were
      refine HoldsAll.congr (h.tree.descends (Nat.le_succ _)) (fun x hx hxt => ?_) ts _
        (fun x hx => ?_) h.holds
      · rw [hadopts.body?, hu.body? hxt, hadopts.children, if_neg (Nat.ne_of_gt hx),
          hu.children hxt]
        exact ⟨rfl, rfl⟩
      · obtain ⟨hlt, hxt, -⟩ := h.tree.listed s.size (Nat.le_refl _) x hx
        exact ⟨hlt, hxt⟩
    · refine Holds.congr (hc.descends (Nat.le_refl _)) (fun x hx _ => ?_) tree t.size
        (Nat.le_refl _) hc.root holds
      rw [hadopts.body?, hadopts.children, if_neg (Nat.ne_of_gt (Nat.lt_of_lt_of_le hroot hx))]
      exact ⟨rfl, rfl⟩

end TypedMarkup.Store
