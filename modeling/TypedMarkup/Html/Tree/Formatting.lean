import TypedMarkup.Html.Tree.Builder

/-!
# Formatting elements

Elements such as `b` and `i` stay in force until their end tag: where another element cuts one off,
a copy of it is opened behind that. `reopen` opens these copies. When the end tag of a formatting
element comes inside a block that it holds, the tree is rearranged so that the element ends before
the block and a copy of it goes on inside; `rearrange` is one round of this.
-/

namespace TypedMarkup.Html

namespace Builder

/-- Puts a mark, which the search for formatting elements does not pass. -/
def mark (b : Builder) : Builder :=
  { b with formatting := none :: b.formatting }

/-- Forgets the formatting elements back to the last mark. -/
def clearToMark (b : Builder) : Builder :=
  { b with formatting := (b.formatting.dropWhile Option.isSome).tail }

/-- Opens a formatting element. -/
def openFormatting (b : Builder) (tag : Tag) : Builder :=
  let b := b.openTag tag
  { b with formatting := some b.current :: b.formatting }

/-- The latest formatting element of this name behind the last mark. -/
def formatting? (b : Builder) (name : String) : Option Nat :=
  ((b.formatting.takeWhile Option.isSome).reduceOption).find? fun n => b.name n == name

/-- Forgets a formatting element. -/
def unformat (b : Builder) (n : Nat) : Builder :=
  { b with formatting := b.formatting.erase (some n) }

/-- Opens a copy of an element. -/
def openCopy (b : Builder) (n : Nat) : Builder :=
  let (copy, draft) := b.draft.copy n
  { b with draft := draft }.openNode copy

/-- Opens copies of the formatting elements that are in force and not open. -/
def reopen (b : Builder) : Builder :=
  let isCut := fun (entry : Option Nat) =>
    match entry with
    | some n => !b.opened.contains n
    | none => false
  let rest := b.formatting.dropWhile isCut
  (b.formatting.takeWhile isCut).reverse.foldl (fun b entry =>
    match entry with
    | some n =>
      let b := b.openCopy n
      { b with formatting := some b.current :: b.formatting }
    | none => b) { b with formatting := rest }

end Builder

/-- A list with an item put in at a position, or at the end if it is not that long. -/
def insertAt {α : Type} (position : Nat) (item : α) (items : List α) : List α :=
  items.take position ++ item :: items.drop position

/-- A rearrangement under way. The open elements are kept outermost first and the formatting
elements oldest first. -/
structure Rearrangement where
  draft : Draft
  opened : List Nat
  formatting : List (Option Nat)
  /-- The position among the open elements that was reached, going outwards. -/
  position : Nat
  /-- The element that was placed last. -/
  last : Nat
  /-- Where the copy of the formatting element goes among the formatting elements. -/
  bookmark : Nat

/-- Goes outwards from a block to the formatting element that ends, over at most this many open
elements: a formatting element on the way is replaced by a copy that takes in what was placed last,
any other is closed. -/
def Rearrangement.climb (ending block : Nat) : (steps : Nat) → Rearrangement → Rearrangement
  | 0, r => r
  | steps + 1, r =>
    let position := r.position - 1
    match r.opened[position]? with
    | none => r
    | some n =>
      if !r.formatting.contains (some n) then
        climb ending block steps { r with position := position, opened := r.opened.erase n }
      else if n = ending then r
      else
        let bookmark :=
          if r.last = block then r.formatting.idxOf (some n) + 1 else r.bookmark
        let (copy, draft) := r.draft.copy n
        climb ending block steps
          { draft := draft.append copy r.last
            opened := r.opened.replace n copy
            formatting := r.formatting.replace (some n) (some copy)
            position := position
            last := copy
            bookmark := bookmark }

namespace Builder

/-- Rearranges the tree around a block in a formatting element that ends: what was placed last goes
to the element around the formatting element, and the block gets a copy of it that takes over all
it holds. -/
def rearrange (b : Builder) (ending block : Nat) : Builder :=
  let opened := b.opened.reverse
  let formatting := b.formatting.reverse
  let around := (opened[opened.idxOf ending - 1]?).getD Draft.root
  let r := Rearrangement.climb ending block 3
    ⟨b.draft, opened, formatting, opened.idxOf block, block, formatting.idxOf (some ending)⟩
  let b := { b with draft := r.draft.detach r.last, opened := r.opened.reverse }
  let b :=
    if Vocabulary.tableContexts.contains (b.name around) then b.foster r.last
    else { b with draft := b.draft.append around r.last }
  let (copy, draft) := b.draft.copy ending
  let draft := (draft.moveChildren block copy).append block copy
  let formatting := insertAt r.bookmark (some copy) (r.formatting.erase (some ending))
  let opened := r.opened.erase ending
  { b with
    draft := draft
    formatting := formatting.reverse
    opened := (insertAt (opened.idxOf block + 1) copy opened).reverse }

end Builder

end TypedMarkup.Html
