import TypedMarkup.Proofs.Store.DocumentOrder
import TypedMarkup.Proofs.Store.Run
import TypedMarkup.Proofs.Text.Join

/-!
# The text below a node

The text of a container is joined from those of its children, level by level, and each level drops
what is empty. Where no node is below itself this is one join of the data of all text nodes below,
in document order and without the empty ones (`textContent_flat`): what has no text leaves no space
behind, at any depth.

* `Reads`: how the text of a node is made of those of its children, without a depth;
* `reads_iff`: the text is found in this way, by induction from the children to the node;
* `textContent_eq_join`: it is joined from the pieces at and below the node, by the same induction.
-/

namespace TypedMarkup.Store

/-- The text of a node: the data of a text node; for a node that owns children, the texts of these
without the empty ones, with single spaces between; and nothing for any other node. -/
inductive Reads (s : Store) : NodeId → String → Prop where
  | text {n : NodeId} {data : String} : s.body? n = some (.text data) → Reads s n data
  | container {n : NodeId} {parts : List String} : s.isContainer n = true →
      List.Forall₂ (Reads s) (s.children n) parts →
      Reads s n (Text.join " " (parts.filter fun part => !part.isEmpty))
  | other {n : NodeId} : s.isContainer n = false → (∀ data, s.body? n ≠ some (.text data)) →
      Reads s n ""

variable {s : Store} {n c : NodeId}

/-- The data of a text node. -/
def textData? (s : Store) (n : NodeId) : Option String :=
  match s.body? n with
  | some (.text data) => some data
  | _ => none

/-- The data of the text nodes among the nodes of a list, without the empty ones. -/
def textPieces (s : Store) (ns : List NodeId) : List String :=
  (ns.filterMap s.textData?).filter fun data => !data.isEmpty

/-! ## Reading the text -/

theorem isContainer_eq_false_of_text {data : String} (h : s.body? n = some (.text data)) :
    s.isContainer n = false := by
  rw [isContainer, h]
  rfl

theorem not_text_of_isContainer (hn : s.isContainer n = true) (data : String) :
    s.body? n ≠ some (.text data) := fun h => by
  simp [isContainer_eq_false_of_text h] at hn

theorem reads_iff_of_text {data : String} (h : s.body? n = some (.text data)) {text : String} :
    Reads s n text ↔ text = data := by
  refine ⟨?_, fun e => e ▸ .text h⟩
  rintro (h' | ⟨hn, -⟩ | ⟨-, hno⟩)
  · simpa [h, eq_comm] using h'
  · exact absurd h (not_text_of_isContainer hn data)
  · exact absurd h (hno data)

theorem reads_iff_of_isContainer (hn : s.isContainer n = true) {text : String} :
    Reads s n text ↔ ∃ parts, List.Forall₂ (Reads s) (s.children n) parts ∧
      text = Text.join " " (parts.filter fun part => !part.isEmpty) := by
  refine ⟨?_, fun ⟨_, hall, e⟩ => e ▸ .container hn hall⟩
  rintro (h | ⟨-, hall⟩ | ⟨hn', -⟩)
  · exact absurd h (not_text_of_isContainer hn text)
  · exact ⟨_, hall, rfl⟩
  · simp [hn] at hn'

theorem reads_iff_of_other (hn : s.isContainer n = false)
    (hno : ∀ data, s.body? n ≠ some (.text data)) {text : String} :
    Reads s n text ↔ text = "" := by
  refine ⟨?_, fun e => e ▸ .other hn hno⟩
  rintro (h | ⟨hn', -⟩ | -)
  · exact absurd h (hno text)
  · simp [hn] at hn'
  · rfl

theorem forall₂_iff_eq_map {α β : Type} {R : α → β → Prop} {f : α → β} {as : List α} {bs : List β}
    (h : ∀ a ∈ as, ∀ b, R a b ↔ b = f a) : List.Forall₂ R as bs ↔ bs = as.map f := by
  induction as generalizing bs with
  | nil => rw [List.forall₂_nil_left_iff, List.map_nil]
  | cons a as ih =>
    obtain ⟨ha, has⟩ := List.forall_mem_cons.mp h
    cases bs with
    | nil => simp
    | cons b bs => rw [List.forall₂_cons, ha, ih has, List.map_cons, List.cons.injEq]

/-- The text of a node is found, whatever is below it. -/
theorem reads_iff (hs : ContainersList s) (h : AcyclicFrom s n) (text : String) :
    Reads s n text ↔ text = s.textContent n := by
  induction h using AcyclicFrom.induction generalizing text with
  | step n h ih =>
    by_cases htext : ∃ data, s.body? n = some (.text data)
    · obtain ⟨data, hdata⟩ := htext
      rw [reads_iff_of_text hdata, textContent_of_text hdata]
    · have hno : ∀ data, s.body? n ≠ some (.text data) := not_exists.mp htext
      rw [textContent_of_not_text h hno]
      cases hc : s.isContainer n with
      | true =>
        rw [reads_iff_of_isContainer hc]
        simp only [forall₂_iff_eq_map ih, exists_eq_left]
      | false =>
        rw [reads_iff_of_other hc hno, hs.children_eq_nil hc]
        rfl

/-! ## Pieces -/

theorem textPieces_cons_of_text {data : String} (h : s.body? n = some (.text data))
    (ns : List NodeId) :
    s.textPieces (n :: ns) = [data].filter (fun data => !data.isEmpty) ++ s.textPieces ns := by
  have hdata : s.textData? n = some data := by rw [textData?, h]
  rw [textPieces, List.filterMap_cons_some hdata, ← List.singleton_append, List.filter_append]
  rfl

theorem textPieces_cons_of_not_text (h : ∀ data, s.body? n ≠ some (.text data))
    (ns : List NodeId) : s.textPieces (n :: ns) = s.textPieces ns := by
  have hdata : s.textData? n = none := by
    unfold textData?
    split
    · exact absurd ‹_› (h _)
    · rfl
  rw [textPieces, List.filterMap_cons_none hdata, textPieces]

theorem textPieces_flatMap (f : NodeId → List NodeId) (ns : List NodeId) :
    s.textPieces (ns.flatMap f) = ns.flatMap fun n => s.textPieces (f n) := by
  simp only [textPieces, List.filterMap_flatMap, List.filter_flatMap]

theorem ne_empty_of_mem_textPieces {ns : List NodeId} {piece : String}
    (h : piece ∈ s.textPieces ns) : piece ≠ "" := by
  simpa using (List.mem_filter.mp h).2

/-- The text of a node is joined from the pieces at the node and below it. -/
theorem textContent_eq_join (hs : ContainersList s) (h : AcyclicFrom s n) :
    s.textContent n = Text.join " " (s.textPieces (n :: s.descendants n)) := by
  induction h using AcyclicFrom.induction with
  | step n h ih =>
    by_cases htext : ∃ data, s.body? n = some (.text data)
    · obtain ⟨data, hdata⟩ := htext
      have hleaf := hs.children_eq_nil (isContainer_eq_false_of_text hdata)
      rw [textContent_of_text hdata, textPieces_cons_of_text hdata, descendants_eq h, hleaf]
      by_cases hempty : data = "" <;> simp [textPieces, Text.join, hempty]
    · have hno : ∀ data, s.body? n ≠ some (.text data) := not_exists.mp htext
      rw [textContent_of_not_text h hno, textPieces_cons_of_not_text hno, descendants_eq h,
        textPieces_flatMap, List.map_congr_left ih]
      exact Text.join_joins fun _ _ _ => ne_empty_of_mem_textPieces

/-! ## Main statement -/

/-- Where no node from the container `c` down is below itself, its text is found, and so are the
nodes below it in document order; and the text is joined, with single spaces, from the data of the
text nodes among these, in this order and without the empty ones. No other node adds anything. -/
theorem textContent_flat (hs : ContainersList s) (acyclic : AcyclicFrom s c)
    (hc : s.isContainer c = true) :
    (∀ text, Reads s c text ↔ text = s.textContent c) ∧
    (∀ ds, Walks s (s.children c) ds ↔ ds = s.descendants c) ∧
    s.textContent c = Text.join " " (s.textPieces (s.descendants c)) := by
  refine ⟨reads_iff hs acyclic, fun ds => walks_iff hs acyclic, ?_⟩
  rw [textContent_eq_join hs acyclic, textPieces_cons_of_not_text (not_text_of_isContainer hc)]

/-- Where the nodes below a number have children with greater numbers that are below it too, none of
them is below itself. -/
theorem acyclicFrom_of_lt {k : Nat} (h : ∀ m < k, ∀ x ∈ s.children m, m < x ∧ x < k)
    (hn : n < k) : AcyclicFrom s n := by
  have down {x y : NodeId} (hx : x < k) (path : Relation.ReflTransGen s.Down x y) :
      x ≤ y ∧ y < k := by
    induction path with
    | refl => exact ⟨Nat.le_refl x, hx⟩
    | tail _ step ih =>
      obtain ⟨hlt, hk⟩ := h _ ih.2 _ step
      exact ⟨Nat.le_trans ih.1 (Nat.le_of_lt hlt), hk⟩
  intro x path cycle
  obtain ⟨y, step, back⟩ := Relation.TransGen.head'_iff.mp cycle
  obtain ⟨hlt, hk⟩ := h x (down hn path).2 y step
  exact Nat.lt_irrefl x (Nat.lt_of_lt_of_le hlt (down hk back).1)

/-- A division, a section, two texts, one of them empty, a comment, a rule, a span, a text and
another division, none of them linked. -/
def boardParts : Store :=
  let block := Body.element (.standard .blockContainer)
  let s := ((empty.create (block "div" [])).2.create (block "section" [])).2
  let s := ((s.create (.text "a")).2.create (.text "")).2
  let s := ((s.create (.comment "c")).2.create (.element (.standard .blockVoid) "hr" [])).2
  let s := (s.create (.element (.standard .inlineContainer) "span" [])).2
  ((s.create (.text "b")).2.create (block "div" [])).2

/-- The first two texts in the section, and this in the first division between the span, the rule,
the comment and the last text; the other division in itself. -/
def board : Store :=
  let s := ((boardParts.appendChild 1 3).store.appendChild 1 2).store
  let s := ((s.appendChild 0 6).store.appendChild 0 1).store
  let s := ((s.appendChild 0 5).store.appendChild 0 4).store
  ((s.appendChild 0 7).store.appendChild 8 8).store

theorem sound_board : Sound board := by
  have created : Sound boardParts :=
    ((((((((sound_empty.create _).create _).create _).create _).create _).create _).create
      _).create _).create _
  have inner := (created.appendChild 1 (c := 3) (by decide)).appendChild 1 (c := 2) (by decide)
  have upper := (inner.appendChild 0 (c := 6) (by decide)).appendChild 0 (c := 1) (by decide)
  have lower := (upper.appendChild 0 (c := 5) (by decide)).appendChild 0 (c := 4) (by decide)
  exact (lower.appendChild 0 (by decide)).appendChild 8 (by decide)

/-- The empty span, the empty text, the rule and the comment leave no space behind. -/
theorem textContent_flat_board :
    ContainersList board ∧ AcyclicFrom board 0 ∧ board.isContainer 0 = true ∧
      board.children 8 = [8] ∧ board.descendants 0 = [6, 1, 3, 2, 5, 4, 7] ∧
      board.textContent 0 = "a b" ∧ Reads board 0 "a b" := by
  have acyclic : AcyclicFrom board 0 := acyclicFrom_of_lt (k := 8) (by decide) (by decide)
  have container : board.isContainer 0 = true := by decide
  obtain ⟨reads, -, flat⟩ := textContent_flat sound_board.containersList acyclic container
  have text : board.textContent 0 = "a b" := flat.trans (by decide)
  exact ⟨sound_board.containersList, acyclic, container, by decide, by decide, text,
    (reads _).mpr text.symm⟩

end TypedMarkup.Store
