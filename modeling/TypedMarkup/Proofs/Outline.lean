import Mathlib.Data.List.Forall2
import TypedMarkup.Proofs.Position
import TypedMarkup.Proofs.Text.Quoted
import TypedMarkup.Semantic.Outline

/-!
# What outlines tell

An outline has an entry for each node, in document order: the indentation of its level and its
label (`forest_eq_map`). An entry can be cut into these two (`entry_injective`), and a label tells
all that `Tree.Alike` asks for (`alike_of_label`). The levels tell the shape: how deep the nodes of
a forest stand, in document order, determines their positions (`positions_eq_of_depths`). No level
below zero has an indentation, so that `write_determines` gives the shape from outlines that begin
at zero or above it, and below that only what the entries tell one by one.
-/

namespace TypedMarkup

/-! ## Kinds -/

theorem NodeKind.name_injective : Function.Injective NodeKind.name := by
  intro k k' h
  cases k <;> cases k' <;> first | rfl | exact absurd h (by decide)

/-- The name of a kind is one word. -/
theorem NodeKind.name_spec (k : NodeKind) : k.name.toList ≠ [] ∧ ' ' ∉ k.name.toList := by
  cases k <;> decide

/-- No element is of the kind of a leaf. -/
theorem ElementType.kind?_ne_leaf (type : ElementType) :
    type.kind? ≠ some .text ∧ type.kind? ≠ some .comment ∧ type.kind? ≠ some .rawData := by
  cases type with
  | standard shape => cases shape <;> decide
  | semantic c =>
    obtain ⟨name, extended, form, tag, display, presets⟩ := c
    cases form <;> simp [kind?]

/-- What two nodes have in common that outlines do not tell apart: elements have the same kind,
texts and comments the same data, and raw data the same length. -/
inductive Tree.Alike : Tree → Tree → Prop where
  | element {type type' : ElementType} (tag tag' : String)
      (attributes attributes' : List (String × String)) (cs cs' : List Tree) :
      type.kind? = type'.kind? →
        Alike (.element type tag attributes cs) (.element type' tag' attributes' cs')
  | text (data : String) : Alike (.text data) (.text data)
  | comment (data : String) : Alike (.comment data) (.comment data)
  | rawData {data data' : String} :
      data.length = data'.length → Alike (.rawData data) (.rawData data')

namespace Tree

theorem kind?_isSome_of_areConcrete (ts : List Tree) :
    areConcrete ts = true → ∀ i, ∀ l ∈ locatedFrom i ts, l.2.kind?.isSome = true := by
  induction ts using forest_induction with
  | nil => exact fun _ _ _ h => absurd h List.not_mem_nil
  | cons t ts ihcs ihts =>
    intro h i
    have ht : t.kind?.isSome = true ∧ areConcrete t.children = true ∧ areConcrete ts = true := by
      rw [areConcrete, Bool.and_eq_true] at h
      cases t with
      | element => rwa [isConcrete, Bool.and_eq_true, and_assoc] at h
      | text | comment | rawData => exact ⟨rfl, rfl, h.2⟩
    rw [locatedFrom_cons, List.cons_append, List.forall_mem_cons, List.forall_mem_append,
      List.forall_mem_map]
    exact ⟨ht.1, ihcs ht.2.1 0, ihts ht.2.2 (i + 1)⟩

/-! ## Depths and positions -/

theorem length_pos_of_mem_locatedFrom {ts : List Tree} {l : Position × Tree}
    (h : l ∈ locatedFrom 0 ts) : 0 < l.1.length := by
  obtain ⟨p, t⟩ := l
  cases p with
  | nil => exact absurd (mem_locatedFrom.mp h) (by simp [forestAt?])
  | cons i p => exact Nat.succ_pos p.length

/-- How deep the nodes of a forest stand below a node at depth `d` whose children the trees are from
number `i` on. -/
def depthsFrom (d i : Nat) (ts : List Tree) : List Nat :=
  (locatedFrom i ts).map fun l => d + l.1.length

theorem depthsFrom_cons (d i : Nat) (t : Tree) (ts : List Tree) :
    depthsFrom d i (t :: ts) =
      (d + 1) :: (depthsFrom (d + 1) 0 t.children ++ depthsFrom d (i + 1) ts) := by
  simp only [depthsFrom, locatedFrom_cons, List.cons_append, List.map_cons, List.map_append,
    List.map_map, Function.comp_def, List.length_cons, List.length_nil]
  simp only [Nat.add_assoc, Nat.add_comm 1]

/-- What follows the nodes of a forest does not stand below them. -/
def Ends (d : Nat) (rest : List Nat) : Prop :=
  ∀ n, rest.head? = some n → n ≤ d

theorem ends_depthsFrom_append {d : Nat} {rest : List Nat} (hrest : Ends d rest) (i : Nat)
    (ts : List Tree) : Ends (d + 1) (depthsFrom d i ts ++ rest) := by
  intro n hn
  cases ts with
  | nil => exact Nat.le_succ_of_le (hrest n hn)
  | cons t ts =>
    rw [depthsFrom_cons] at hn
    exact Nat.le_of_eq (Option.some.inj hn).symm

/-- The nodes of a forest end where something follows that does not stand below them, so that their
depths determine their positions; by induction on the forest, whatever follows it. -/
theorem positions_eq_of_depths (ts : List Tree) : ∀ (us : List Tree) (d i : Nat)
    (rest rest' : List Nat), Ends d rest → Ends d rest' →
      depthsFrom d i ts ++ rest = depthsFrom d i us ++ rest' →
        (locatedFrom i ts).map Prod.fst = (locatedFrom i us).map Prod.fst ∧ rest = rest' := by
  induction ts using forest_induction with
  | nil =>
    intro us d i rest rest' hrest _ h
    cases us with
    | nil => exact ⟨rfl, h⟩
    | cons u us =>
      -- a first node of the other forest would stand below what follows this one
      rw [depthsFrom_cons] at h
      exact absurd (hrest (d + 1) (congrArg List.head? h)) (Nat.not_succ_le_self d)
  | cons t ts ihcs ihts =>
    intro us d i rest rest' hrest hrest' h
    cases us with
    | nil =>
      rw [depthsFrom_cons] at h
      exact absurd (hrest' (d + 1) (congrArg List.head? h.symm)) (Nat.not_succ_le_self d)
    | cons u us =>
      simp only [depthsFrom_cons, List.cons_append, List.append_assoc, List.cons.injEq,
        true_and] at h
      obtain ⟨hcs, htail⟩ := ihcs u.children (d + 1) 0 _ _
        (ends_depthsFrom_append hrest (i + 1) ts) (ends_depthsFrom_append hrest' (i + 1) us) h
      obtain ⟨hts, hend⟩ := ihts us d (i + 1) rest rest' hrest hrest' htail
      refine ⟨?_, hend⟩
      have hbelow := congrArg (List.map (i :: ·)) hcs
      simp only [List.map_map, Function.comp_def] at hbelow
      simp only [locatedFrom_cons, List.cons_append, List.map_cons, List.map_append, List.map_map,
        Function.comp_def, hbelow, hts]

end Tree

namespace Outline

open TypedMarkup.Tree

variable {t u : Tree} {ts us : List Tree} {level : Int}

/-! ## Entries -/

/-- The level of the node of a forest at a position, when the roots stand at `level`. -/
def levelAt (level : Int) (p : Position) : Int :=
  level + p.length - 1

theorem lines_eq_cons (level : Int) (t : Tree) :
    lines level t = (pad level ++ label t) :: forest (level + 1) t.children := by
  cases t <;> rfl

/-- The outline has an entry for each node, in document order, with its level and its label. -/
theorem forest_eq_map (ts : List Tree) : ∀ (level : Int) (i : Nat), forest level ts =
    (locatedFrom i ts).map fun l => pad (levelAt level l.1) ++ label l.2 := by
  induction ts using forest_induction with
  | nil => exact fun _ _ => rfl
  | cons t ts ihcs ihts =>
    intro level i
    have hroot : levelAt level [i] = level := by simp [levelAt]
    have hbelow (p : Position) : levelAt level (i :: p) = levelAt (level + 1) p := by
      simp only [levelAt, List.length_cons]
      omega
    simp only [forest, lines_eq_cons, ihcs (level + 1) 0, ihts level (i + 1), locatedFrom_cons,
      List.cons_append, List.map_cons, List.map_append, List.map_map, Function.comp_def, hroot,
      hbelow]

/-! ## Labels -/

theorem repr_injective : Function.Injective Nat.repr := by
  intro n m h
  have hdigits : Nat.toDigits 10 n = Nat.toDigits 10 m := by
    rw [← Nat.toList_repr, h, Nat.toList_repr]
  have hread (k : Nat) : Nat.ofDigitChars 10 (Nat.toDigits 10 k) 0 = k :=
    Nat.ofDigitChars_toDigits (by decide) (by decide)
  rw [← hread n, hdigits, hread m]

/-- A label begins with the name of the kind as its first word. -/
theorem label_spec {k : NodeKind} (hk : t.kind? = some k) :
    ∃ detail, (label t).toList = k.name.toList ++ ' ' :: detail := by
  cases t with
  | element type tag attributes cs =>
    have hkind : type.kind? = some k := hk
    let texts := (Text.join "" (attributes.map attributeText)).toList
    refine ⟨('<' :: tag.toList) ++ texts ++ ['>'], ?_⟩
    simp only [label, hkind, kindName, String.toList_append, List.append_assoc, List.cons_append]
    rfl
  | text data =>
    obtain rfl := Option.some.inj hk
    exact ⟨(Text.quote data).toList, by rw [label, String.toList_append]; rfl⟩
  | comment data =>
    obtain rfl := Option.some.inj hk
    exact ⟨(Text.quote data).toList, by rw [label, String.toList_append]; rfl⟩
  | rawData data =>
    obtain rfl := Option.some.inj hk
    refine ⟨'(' :: (Nat.repr data.length).toList ++ " chars)".toList, ?_⟩
    rw [label, String.toList_append, String.toList_append]
    rfl

/-- The first word of a label. -/
theorem takeWhile_label {k : NodeKind} (hk : t.kind? = some k) :
    (label t).toList.takeWhile (· ≠ ' ') = k.name.toList := by
  obtain ⟨detail, hdetail⟩ := label_spec hk
  have hword : ∀ c ∈ k.name.toList, decide (c ≠ ' ') = true := fun c hc =>
    decide_eq_true fun h => k.name_spec.2 (h ▸ hc)
  rw [hdetail, List.takeWhile_append_of_pos hword, List.takeWhile_cons_of_neg (by decide),
    List.append_nil]

/-- A label tells the kind, the data of texts and comments and the length of raw data. -/
theorem alike_of_label (ht : t.kind?.isSome = true) (hu : u.kind?.isSome = true)
    (h : label t = label u) : Alike t u := by
  obtain ⟨k, hk⟩ := Option.isSome_iff_exists.mp ht
  obtain ⟨k', hk'⟩ := Option.isSome_iff_exists.mp hu
  have hkind : t.kind? = u.kind? := by
    have hname := takeWhile_label hk
    rw [h, takeWhile_label hk'] at hname
    rw [hk, hk', NodeKind.name_injective (String.toList_injective hname)]
  cases t with
  | element type tag attributes cs =>
    obtain ⟨htext, hcomment, hraw⟩ := type.kind?_ne_leaf
    cases u with
    | element => exact .element _ _ _ _ _ _ hkind
    | text => exact absurd hkind htext
    | comment => exact absurd hkind hcomment
    | rawData => exact absurd hkind hraw
  | text data =>
    cases u with
    | element type => exact absurd hkind.symm type.kind?_ne_leaf.1
    | text data' =>
      obtain rfl := Text.quote_injective (String.append_right_inj _ |>.mp h)
      exact .text data
    | comment | rawData => exact absurd hkind (by simp [kind?])
  | comment data =>
    cases u with
    | element type => exact absurd hkind.symm type.kind?_ne_leaf.2.1
    | comment data' =>
      obtain rfl := Text.quote_injective (String.append_right_inj _ |>.mp h)
      exact .comment data
    | text | rawData => exact absurd hkind (by simp [kind?])
  | rawData data =>
    cases u with
    | element type => exact absurd hkind.symm type.kind?_ne_leaf.2.2
    | rawData data' =>
      rw [label, label, String.append_left_inj, String.append_right_inj] at h
      exact .rawData (repr_injective h)
    | text | comment => exact absurd hkind (by simp [kind?])

/-- The spaces in front of an entry are those of its indentation, for the name of a kind begins with
another character. -/
theorem takeWhile_entry (ht : t.kind?.isSome = true) (level : Int) :
    (pad level ++ label t).toList.takeWhile (· = ' ') = List.replicate (2 * level.toNat) ' ' := by
  obtain ⟨k, hk⟩ := Option.isSome_iff_exists.mp ht
  obtain ⟨detail, hdetail⟩ := label_spec hk
  obtain ⟨hne, hword⟩ := k.name_spec
  obtain ⟨c, cs, hc⟩ := List.exists_cons_of_ne_nil hne
  have hfirst : c ≠ ' ' := fun h => hword (by rw [hc, h]; exact List.mem_cons_self)
  rw [String.toList_append, pad, String.toList_ofList, hdetail, hc, List.cons_append,
    List.takeWhile_append_of_pos (by simp), List.takeWhile_cons_of_neg (by simpa using hfirst),
    List.append_nil]

/-- An entry is cut where its first character stands that is no space. -/
theorem entry_injective {a b : Int} (ht : t.kind?.isSome = true) (hu : u.kind?.isSome = true)
    (h : pad a ++ label t = pad b ++ label u) : a.toNat = b.toNat ∧ label t = label u := by
  have hlevel : a.toNat = b.toNat := by
    have hspaces := takeWhile_entry ht a
    rw [h, takeWhile_entry hu b] at hspaces
    have hlength := congrArg List.length hspaces
    simp only [List.length_replicate] at hlength
    omega
  refine ⟨hlevel, ?_⟩
  rw [pad, pad, hlevel] at h
  exact (String.append_right_inj _).mp h

/-! ## Main statement -/

/-- What is listed at a position in one of two lists of the same positions is listed there in the
other. -/
theorem exists_of_forall₂ {r : Tree → Tree → Prop} {ls ls' : List (Position × Tree)}
    (h : List.Forall₂ (fun a b => a.1 = b.1 ∧ r a.2 b.2) ls ls') {p : Position} {t : Tree}
    (ht : (p, t) ∈ ls) : ∃ u, (p, u) ∈ ls' ∧ r t u := by
  induction h with
  | nil => exact absurd ht List.not_mem_nil
  | @cons a b ls ls' hab _ ih =>
    rcases List.mem_cons.mp ht with rfl | ht
    · obtain ⟨hp, hr⟩ := hab
      exact ⟨b.2, by rw [show p = b.1 from hp]; exact List.mem_cons_self, hr⟩
    · obtain ⟨u, hu, hr⟩ := ih ht
      exact ⟨u, List.mem_cons_of_mem b hu, hr⟩

/-- Forests whose nodes are listed with the same positions and are related one by one are related
at every position. -/
theorem rel_forestAt? {r : Tree → Tree → Prop}
    (h : List.Forall₂ (fun a b => a.1 = b.1 ∧ r a.2 b.2) (locatedFrom 0 ts) (locatedFrom 0 us))
    (p : Position) : Option.Rel r (forestAt? ts p) (forestAt? us p) := by
  cases ht : forestAt? ts p with
  | some t =>
    obtain ⟨u, hu, hr⟩ := exists_of_forall₂ h (mem_locatedFrom.mpr ht)
    rw [mem_locatedFrom.mp hu]
    exact .some hr
  | none =>
    cases hu : forestAt? us p with
    | none => exact .none
    | some u =>
      have hflip : List.Forall₂ (fun b a => b.1 = a.1 ∧ r a.2 b.2) (locatedFrom 0 us)
          (locatedFrom 0 ts) := List.Forall₂.flip (h.imp fun _ _ hab => ⟨hab.1.symm, hab.2⟩)
      obtain ⟨t, ht', -⟩ := exists_of_forall₂ (r := fun u t => r t u) hflip
        (mem_locatedFrom.mpr hu)
      exact absurd (mem_locatedFrom.mp ht') (by simp [ht])

theorem map_eq_map_iff_forall₂ {α β : Type} {f : α → β} {as bs : List α} :
    as.map f = bs.map f ↔ List.Forall₂ (fun a b => f a = f b) as bs := by
  rw [← List.forall₂_eq_eq_eq, List.forall₂_map_left_iff, List.forall₂_map_right_iff]

/-- Equal outlines of two forests of nodes of the nine kinds tell, of the nodes in document order,
one by one, that they are alike and that they have the same level, where all levels below zero count
as zero; if they begin at zero or above it, also that alike nodes have the same positions. -/
theorem write_determines {ts us : List Tree} {level : Int} (hts : areConcrete ts = true)
    (hus : areConcrete us = true) (h : write ts level = write us level) :
    List.Forall₂ (fun a b => (levelAt level a.1).toNat = (levelAt level b.1).toNat ∧ Alike a.2 b.2)
        (locatedFrom 0 ts) (locatedFrom 0 us) ∧
      (0 ≤ level → ∀ p, Option.Rel Alike (forestAt? ts p) (forestAt? us p)) := by
  have hforest : forest level ts = forest level us := by
    rw [write, write, if_pos hts, if_pos hus] at h
    exact Except.ok.inj h
  rw [forest_eq_map ts level 0, forest_eq_map us level 0] at hforest
  obtain ⟨hlength, hentries⟩ := List.forall₂_iff_zip.mp (map_eq_map_iff_forall₂.mp hforest)
  have hnodes {a b : Position × Tree} (hab : (a, b) ∈ (locatedFrom 0 ts).zip (locatedFrom 0 us)) :
      (levelAt level a.1).toNat = (levelAt level b.1).toNat ∧ Alike a.2 b.2 := by
    have hmem := List.of_mem_zip hab
    have ha := kind?_isSome_of_areConcrete ts hts 0 a hmem.1
    have hb := kind?_isSome_of_areConcrete us hus 0 b hmem.2
    obtain ⟨hlevel, hlabel⟩ := entry_injective ha hb (hentries hab)
    exact ⟨hlevel, alike_of_label ha hb hlabel⟩
  refine ⟨List.forall₂_iff_zip.mpr ⟨hlength, hnodes⟩, fun hzero => rel_forestAt? ?_⟩
  -- from zero on the levels give the depths, and these give the positions
  have hdepths : depthsFrom 0 0 ts = depthsFrom 0 0 us := by
    refine map_eq_map_iff_forall₂.mpr (List.forall₂_iff_zip.mpr ⟨hlength, fun {a b} hab => ?_⟩)
    have hmem := List.of_mem_zip hab
    have ha := length_pos_of_mem_locatedFrom hmem.1
    have hb := length_pos_of_mem_locatedFrom hmem.2
    have hlevel := (hnodes hab).1
    simp only [levelAt] at hlevel
    omega
  have hpositions := (positions_eq_of_depths ts us 0 0 [] [] (by simp [Ends]) (by simp [Ends])
    (by rw [hdepths])).1
  obtain ⟨-, hsame⟩ := List.forall₂_iff_zip.mp (map_eq_map_iff_forall₂.mp hpositions)
  exact List.forall₂_iff_zip.mpr ⟨hlength, fun hab => ⟨hsame hab, (hnodes hab).2⟩⟩

/-- A quotation mark in the text of an attribute can end it in the outline, so that two attributes
and one have the same label. -/
theorem write_determines_mark :
    let one : List Tree := [.element (.standard .blockContainer) "p" [("a", "1\" b=\"2")]
      [.text "x"]]
    let two : List Tree := [.element (.standard .blockContainer) "p" [("a", "1"), ("b", "2")]
      [.text "x"]]
    areConcrete one = true ∧ areConcrete two = true ∧ write one 1 = write two 1 ∧
      List.Forall₂ (fun a b => (levelAt 1 a.1).toNat = (levelAt 1 b.1).toNat ∧ Alike a.2 b.2)
        (locatedFrom 0 one) (locatedFrom 0 two) ∧
      ∀ p, Option.Rel Alike (forestAt? one p) (forestAt? two p) := by
  intro one two
  have hone : areConcrete one = true := rfl
  have htwo : areConcrete two = true := rfl
  have hwrite : write one 1 = write two 1 := by decide +kernel
  obtain ⟨hnodes, hshape⟩ := write_determines hone htwo hwrite
  exact ⟨hone, htwo, hwrite, hnodes, hshape (by decide)⟩

/-- From a level below zero the outline of a paragraph in a division is that of a paragraph behind
it. -/
theorem write_nested_eq_write_flat :
    let p : Tree := .element (.standard .blockContainer) "p" [] []
    let nested : List Tree := [.element (.standard .blockContainer) "div" [] [p]]
    let flat : List Tree := [.element (.standard .blockContainer) "div" [] [], p]
    areConcrete nested = true ∧ areConcrete flat = true ∧ write nested (-1) = write flat (-1) ∧
      ¬ ∀ p, Option.Rel Alike (forestAt? nested p) (forestAt? flat p) := by
  intro p nested flat
  refine ⟨rfl, rfl, by decide +kernel, fun h => ?_⟩
  have hsecond : Option.Rel Alike none (some p) := h [1]
  cases hsecond

end Outline

end TypedMarkup
