import TypedMarkup.Html.Vocabulary
import TypedMarkup.Markup.Node

/-!
# Trees under construction

A draft holds the nodes of a document that is still being read, by number; node 0 is the document.
Nodes can be put anywhere and moved, which odd markup asks for. Text that comes to stand behind
text is joined to it. `toDocument` gives the finished tree.
-/

namespace TypedMarkup.Html

/-- What a node of a draft is. -/
inductive Draft.Content where
  | element (space : Namespace) (name : String) (attributes : List (String × Value))
  | string (sort : Markup.StringSort) (data : String)

/-- A node of a draft with its place. -/
structure Draft.Cell where
  content : Draft.Content
  parent : Option Nat
  children : List Nat

/-- A tree under construction. -/
structure Draft where
  cells : Array Draft.Cell

namespace Draft

/-- The number of the document. -/
def root : Nat := 0

/-- The draft of an empty document. -/
def empty : Draft :=
  ⟨#[⟨.element .html "" [], none, []⟩]⟩

/-- The namespace of a node, if it is an element. -/
def space? (d : Draft) (n : Nat) : Option Namespace :=
  match d.cells[n]? with
  | some ⟨.element space _ _, _, _⟩ => some space
  | _ => none

/-- The name of an element; other nodes have the empty name. -/
def name (d : Draft) (n : Nat) : String :=
  match d.cells[n]? with
  | some ⟨.element _ name _, _, _⟩ => name
  | _ => ""

/-- The attributes of an element. -/
def attributes (d : Draft) (n : Nat) : List (String × Value) :=
  match d.cells[n]? with
  | some ⟨.element _ _ attributes, _, _⟩ => attributes
  | _ => []

/-- The parent of a node. -/
def parent? (d : Draft) (n : Nat) : Option Nat :=
  d.cells[n]?.bind Cell.parent

/-- The children of a node. -/
def children (d : Draft) (n : Nat) : List Nat :=
  match d.cells[n]? with
  | some cell => cell.children
  | none => []

/-- Changes a cell. -/
def change (d : Draft) (n : Nat) (f : Cell → Cell) : Draft :=
  ⟨d.cells.modify n f⟩

/-- Adds a node without a place: its number and the draft. -/
def create (d : Draft) (content : Content) : Nat × Draft :=
  (d.cells.size, ⟨d.cells.push ⟨content, none, []⟩⟩)

/-- Takes a node out of its place. -/
def detach (d : Draft) (n : Nat) : Draft :=
  match d.parent? n with
  | none => d
  | some p =>
    (d.change p fun cell => { cell with children := cell.children.filter (· != n) }).change n
      fun cell => { cell with parent := none }

/-- Puts a node behind the children of another. -/
def append (d : Draft) (parent n : Nat) : Draft :=
  ((d.detach n).change parent fun cell => { cell with children := cell.children ++ [n] }).change n
    fun cell => { cell with parent := some parent }

/-- Puts a node in front of a child of another. -/
def insertBefore (d : Draft) (parent sibling n : Nat) : Draft :=
  ((d.detach n).change parent fun cell =>
    let before := cell.children.takeWhile (· != sibling)
    let rest := cell.children.dropWhile (· != sibling)
    { cell with children := before ++ n :: rest }).change n
      fun cell => { cell with parent := some parent }

/-- The text of a node, if it is plain text. -/
def plainText? (d : Draft) (n : Nat) : Option String :=
  match d.cells[n]? with
  | some ⟨.string .plain data, _, _⟩ => some data
  | _ => none

/-- Joins text to a node, if that is plain text. -/
def join? (d : Draft) (n : Nat) (data : String) : Option Draft :=
  (d.plainText? n).map fun old =>
    d.change n fun cell => { cell with content := .string .plain (old ++ data) }

/-- Puts text behind the children of a node, joined to the text that stands there. -/
def appendText (d : Draft) (parent : Nat) (data : String) : Draft :=
  match (d.children parent).getLast?.bind fun last => d.join? last data with
  | some joined => joined
  | none =>
    let (n, d) := d.create (.string .plain data)
    d.append parent n

/-- The child in front of another; in front of the first stands the last. -/
def neighbour? (d : Draft) (parent sibling : Nat) : Option Nat :=
  match ((d.children parent).takeWhile (· != sibling)).getLast? with
  | some n => some n
  | none => (d.children parent).getLast?

/-- Puts text in front of a child of a node, joined to the text that stands there. -/
def insertTextBefore (d : Draft) (parent sibling : Nat) (data : String) : Draft :=
  match (d.neighbour? parent sibling).bind fun n => d.join? n data with
  | some joined => joined
  | none =>
    let (n, d) := d.create (.string .plain data)
    d.insertBefore parent sibling n

/-- Adds an element without a place that has the name and the attributes of another. -/
def copy (d : Draft) (n : Nat) : Nat × Draft :=
  d.create (.element ((d.space? n).getD .html) (d.name n) (d.attributes n))

/-- Moves all children of an element behind those of another. -/
def moveChildren (d : Draft) (source target : Nat) : Draft :=
  (d.children source).foldl (fun d n => d.append target n) d

/-- Gives an element those attributes that it does not have yet. -/
def addAttributes (d : Draft) (n : Nat) (attributes : List (String × Value)) : Draft :=
  d.change n fun cell =>
    match cell.content with
    | .element space name old =>
      let missing := attributes.filter fun a => !(Entries.has a.1 old)
      { cell with content := .element space name (old ++ missing) }
    | .string .. => cell

/-- A finished node, with what lies below it to this depth. -/
def toNode (d : Draft) : (depth : Nat) → Nat → Markup.Node
  | 0, _ => .absent
  | depth + 1, n =>
    match d.cells[n]? with
    | some ⟨.element _ name attributes, _, children⟩ =>
      .element name attributes (children.map (d.toNode depth))
    | some ⟨.string sort data, _, _⟩ => .string sort data
    | none => .absent

/-- The finished document. No node lies deeper than there are nodes. -/
def toDocument (d : Draft) : Markup.Document :=
  (d.children root).map (d.toNode d.cells.size)

end Draft

end TypedMarkup.Html
