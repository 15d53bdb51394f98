import TypedMarkup.Proofs.Outline
import TypedMarkup.Proofs.Store.DocumentOrder

/-!
# Entries and nodes

An outline goes down the trees on its own. Its entries are nevertheless those of the nodes in
document order, each tree's root and then its descendants (`forest_eq_map_located`). An entry begins
with two spaces for each level, where the roots stand at the level that the outline begins with and
a node so many levels deeper as its distance from the root says, and then come the name of its kind
and a space (`entryOf_located`).

The nodes of a live tree are gone through by a walk of their own, over the lists of children. It
comes to the nodes of the tree that is read off them, in the same order (`exists_readAs`).
`write_entries` puts all this together.
-/

namespace TypedMarkup

namespace Outline

open TypedMarkup.Tree

variable {ts : List Tree} {level : Int}

/-! ## Entries in document order -/

/-- The entries of a tree are those of its nodes, which stand as deep below `level` as the node is
away from the root. -/
theorem lines_eq_map (level : Int) (t : Tree) :
    lines level t = t.located.map fun l => pad (level + l.1.length) ++ label l.2 := by
  have hbelow (p : Position) : levelAt (level + 1) p = level + p.length := by
    simp only [levelAt]
    omega
  rw [lines_eq_cons, forest_eq_map t.children (level + 1) 0, locatedFrom_eq_below, located_eq_cons]
  simp only [List.map_cons, List.length_nil, Int.natCast_zero, Int.add_zero, hbelow]

theorem forest_eq_map_located (level : Int) (ts : List Tree) :
    forest level ts =
      (ts.flatMap located).map fun l => pad (level + l.1.length) ++ label l.2 := by
  induction ts with
  | nil => rfl
  | cons t ts ih => rw [forest, lines_eq_map, ih, List.flatMap_cons, List.map_append]

/-- The nodes of the trees in document order, without their positions. -/
theorem map_snd_flatMap_located (ts : List Tree) :
    (ts.flatMap located).map Prod.snd = ts.flatMap fun t => t :: t.descendants := by
  rw [List.map_flatMap]
  exact List.flatMap_congr fun t _ => by rw [map_snd_located, preorder_eq_cons]

/-! ## What an entry begins with -/

/-- The entry of a node at a position below the root of its tree, when the root stands at `level`:
as many spaces as the level of the node asks for, two for each and none below zero, and not one
more; and then the label of the node, which begins with the name of its kind and a space. -/
structure EntryOf (level : Int) (node : Position × Tree) (entry : String) : Prop where
  text : entry =
    String.ofList (List.replicate (2 * (level + node.1.length)).toNat ' ') ++ label node.2
  spaces : (entry.toList.takeWhile (· = ' ')).length = (2 * (level + node.1.length)).toNat
  kind : ∃ k detail, node.2.kind? = some k ∧ entry.toList =
    List.replicate (2 * (level + node.1.length)).toNat ' ' ++ k.name.toList ++ ' ' :: detail

theorem pad_eq (level : Int) :
    pad level = String.ofList (List.replicate (2 * level).toNat ' ') := by
  rw [pad, show 2 * level.toNat = (2 * level).toNat by omega]

theorem entryOf_located {node : Position × Tree} (h : node.2.kind?.isSome = true) :
    EntryOf level node (pad (level + node.1.length) ++ label node.2) := by
  obtain ⟨k, hk⟩ := Option.isSome_iff_exists.mp h
  obtain ⟨detail, hdetail⟩ := label_spec hk
  refine ⟨by rw [pad_eq], ?_, k, detail, hk, ?_⟩
  · rw [takeWhile_entry h, List.length_replicate]
    omega
  · rw [pad_eq, String.toList_append, String.toList_ofList, hdetail, List.append_assoc]

theorem kind?_isSome_of_mem_located (hts : areConcrete ts = true) {node : Position × Tree}
    (h : node ∈ ts.flatMap located) : node.2.kind?.isSome = true := by
  obtain ⟨t, ht, hnode⟩ := List.mem_flatMap.mp h
  obtain ⟨i, hi⟩ := List.mem_iff_getElem?.mp ht
  have hat : forestAt? ts (i :: node.1) = some node.2 := by
    rw [forestAt?, hi, Option.bind_some]
    exact (mem_located t node.1 node.2).mp hnode
  exact kind?_isSome_of_areConcrete ts hts 0 (i :: node.1, node.2) (mem_locatedFrom.mpr hat)

end Outline

/-! ## Live trees -/

namespace Tree

theorem preorders_eq_flatMap (ts : List Tree) :
    preorders ts = ts.flatMap fun t => t :: t.descendants := by
  induction ts with
  | nil => rfl
  | cons t ts ih => rw [preorders, preorder_eq_cons, ih, List.flatMap_cons]

end Tree

namespace Store

variable {s : Store} {n : NodeId}

/-- The tree is that of the live node, all nodes in it are of the nine kinds, and the nodes below
the live node are read as those below the root of the tree, in the same order. -/
structure ReadAs (s : Store) (n : NodeId) (t : Tree) : Prop where
  tree : s.tree? n = some t
  concrete : t.isConcrete = true
  below : List.Forall₂ (fun m u => s.tree? m = some u) (s.descendants n) t.descendants

theorem forall₂_filterMap {α β : Type} {f : α → Option β} {r : α → β → Prop} {as : List α}
    (h : ∀ a ∈ as, ∃ b, f a = some b ∧ r a b) : List.Forall₂ r as (as.filterMap f) := by
  induction as with
  | nil => exact .nil
  | cons a as ih =>
    obtain ⟨⟨b, hb, hr⟩, has⟩ := List.forall_mem_cons.mp h
    rw [List.filterMap_cons_some hb]
    exact .cons hr (ih has)

/-- Live nodes that are read as trees are read in order with all below them. -/
theorem forall₂_nodes {ns : List NodeId} {ts : List Tree} (h : List.Forall₂ (ReadAs s) ns ts) :
    List.Forall₂ (fun m u => s.tree? m = some u) (ns.flatMap fun n => n :: s.descendants n)
      (ts.flatMap fun t => t :: t.descendants) :=
  List.rel_flatMap h fun _ _ hread => .cons hread.tree hread.below

theorem areConcrete_of_readAs {ns : List NodeId} {ts : List Tree}
    (h : List.Forall₂ (ReadAs s) ns ts) : Tree.areConcrete ts = true := by
  induction h with
  | nil => rfl
  | cons hread _ ih => rw [Tree.areConcrete, hread.concrete, ih]; rfl

/-- Where going down ends, and only nodes that own children list any, a node of the nine kinds with
only such nodes below it is read as a tree, by induction from its children. -/
theorem exists_readAs (hs : ContainersList s) (h : AcyclicFrom s n)
    (hkind : ∀ m ∈ n :: s.descendants n, (s.kind? m).isSome = true) : ∃ t, s.ReadAs n t := by
  induction h using AcyclicFrom.induction with
  | step n h ih =>
    have hn := hkind n List.mem_cons_self
    cases hb : s.body? n with
    | none => simp [kind?, hb] at hn
    | some body =>
      -- a node that owns no children is read as a leaf
      have leaf (t : Tree) (howns : body.ownsChildren = false) (htree : s.tree? n = some t)
          (hconcrete : t.isConcrete = true) (hbelow : t.descendants = []) : ∃ t, s.ReadAs n t := by
        refine ⟨t, htree, hconcrete, ?_⟩
        rw [hbelow, descendants_eq h, hs.children_eq_nil (by simp only [isContainer, hb, howns])]
        exact .nil
      cases body with
      | plain => simp [kind?, hb] at hn
      | text data =>
        exact leaf (.text data) rfl (by unfold tree? treeTo; simp only [hb]) rfl rfl
      | comment data =>
        exact leaf (.comment data) rfl (by unfold tree? treeTo; simp only [hb]) rfl rfl
      | rawData data =>
        exact leaf (.rawData data) rfl (by unfold tree? treeTo; simp only [hb]) rfl rfl
      | element type tag attributes =>
        have hchildren : List.Forall₂ (ReadAs s) (s.children n)
            ((s.children n).filterMap s.tree?) := by
          refine forall₂_filterMap fun x hx => ?_
          obtain ⟨t, ht⟩ := ih x hx fun m hm => hkind m (List.mem_cons_of_mem n (by
            rw [descendants_eq h]
            exact List.mem_flatMap.mpr ⟨x, hx, hm⟩))
          exact ⟨t, ht.tree, ht⟩
        have hconcrete : type.kind?.isSome = true := by simpa [kind?, hb] using hn
        refine ⟨_, tree?_of_element h hb, ?_, ?_⟩
        · rw [Tree.isConcrete, hconcrete, areConcrete_of_readAs hchildren]
          rfl
        · rw [descendants_eq h, Tree.descendants, Tree.children, Tree.preorders_eq_flatMap]
          exact forall₂_nodes hchildren

end Store

namespace Outline

open TypedMarkup.Tree

/-! ## Main statement -/

/-- The outline of a forest of nodes of the nine kinds has an entry for each node, the root of each
tree before its descendants, and each is the entry of its node. Where the trees are read off live
nodes, from which going down ends, their nodes in this order are what is read off those nodes, each
before what a walk comes to below it. -/
theorem write_entries (level : Int) :
    (∀ ts, areConcrete ts = true → ∃ entries, write ts level = .ok entries ∧
      entries.length = (ts.flatMap fun t => t :: t.descendants).length ∧
      (ts.flatMap located).map Prod.snd = (ts.flatMap fun t => t :: t.descendants) ∧
      List.Forall₂ (EntryOf level) (ts.flatMap located) entries) ∧
    ∀ (s : Store) (roots : List NodeId), s.ContainersList → (∀ n ∈ roots, s.AcyclicFrom n) →
      (∀ m ∈ roots.flatMap fun n => n :: s.descendants n, (s.kind? m).isSome = true) →
      ∃ ts, List.Forall₂ (fun n t => s.tree? n = some t) roots ts ∧ areConcrete ts = true ∧
        List.Forall₂ (fun m u => s.tree? m = some u) (roots.flatMap fun n => n :: s.descendants n)
          (ts.flatMap fun t => t :: t.descendants) := by
  refine ⟨fun ts hts => ?_, fun s roots hs acyclic hkind => ?_⟩
  · have hnodes := map_snd_flatMap_located ts
    refine ⟨forest level ts, by rw [write, if_pos hts], ?_, hnodes, ?_⟩
    · rw [forest_eq_map_located, List.length_map, ← hnodes, List.length_map]
    · rw [forest_eq_map_located, List.forall₂_map_right_iff, List.forall₂_same]
      exact fun node hnode => entryOf_located (kind?_isSome_of_mem_located hts hnode)
  · have reads : List.Forall₂ s.ReadAs roots (roots.filterMap s.tree?) := by
      refine Store.forall₂_filterMap fun n hn => ?_
      obtain ⟨t, ht⟩ := Store.exists_readAs hs (acyclic n hn) fun m hm =>
        hkind m (List.mem_flatMap.mpr ⟨n, hn, hm⟩)
      exact ⟨t, ht.tree, ht⟩
    exact ⟨_, reads.imp fun _ _ h => h.tree, Store.areConcrete_of_readAs reads,
      Store.forall₂_nodes reads⟩

/-- A division with a line break and a script in it, and a comment behind it. -/
def articleForest : List Tree :=
  [.element (.standard .blockContainer) "div" [("id", "a")]
    [.element (.standard .inlineVoid) "br" [] [],
      .element (.standard .blockContainer) "script" [] [.rawData "x()"]],
    .comment "end"]

/-- From one level below zero the roots and their children have no spaces in front of them. In a
store whose nodes were linked in another order than they were created, the paragraph comes first. -/
theorem write_entries_article :
    write articleForest (-1) = .ok ["block_container <div id=\"a\">", "inline_void <br>",
        "block_container <script>", "  raw_data (3 chars)", "comment 'end'"] ∧
      (∃ entries, write articleForest (-1) = .ok entries ∧ entries.length = 5 ∧
        List.Forall₂ (EntryOf (-1)) (articleForest.flatMap located) entries) ∧
      Store.leaflet.descendants 0 = [3, 4, 1, 5, 2] ∧
      ∃ ts entries, List.Forall₂ (fun n t => Store.leaflet.tree? n = some t) [0] ts ∧
        write ts 1 = .ok entries ∧
        List.Forall₂ (fun m u => Store.leaflet.tree? m = some u) [0, 3, 4, 1, 5, 2]
          (ts.flatMap fun t => t :: t.descendants) ∧
        List.Forall₂ (EntryOf 1) (ts.flatMap located) entries := by
  refine ⟨by decide +kernel, ?_, by decide, ?_⟩
  · obtain ⟨entries, hwrite, hlength, -, hentries⟩ := (write_entries (-1)).1 articleForest rfl
    exact ⟨entries, hwrite, hlength, hentries⟩
  · obtain ⟨ts, roots, concrete, nodes⟩ := (write_entries 1).2 Store.leaflet [0]
      Store.isForest_leaflet.sound.containersList
      (fun n _ => Store.isForest_leaflet.acyclicFrom n) (by decide)
    obtain ⟨entries, hwrite, -, -, hentries⟩ := (write_entries 1).1 ts concrete
    exact ⟨ts, entries, roots, hwrite, nodes, hentries⟩

end Outline

end TypedMarkup
