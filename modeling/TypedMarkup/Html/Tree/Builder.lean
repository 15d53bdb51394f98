import TypedMarkup.Html.Foreign
import TypedMarkup.Html.ListValued
import TypedMarkup.Html.Token.Next
import TypedMarkup.Html.Tree.Draft

/-!
# Builders

What the construction of a tree remembers between tokens: the draft, the elements that are open,
the formatting elements that are in force, and the mode. The operations here open and close
elements, search among the open ones and put text and elements in their places.
-/

namespace TypedMarkup.Html

/-- What part of a document the next token is read in. -/
inductive Mode where
  | initial
  | beforeHtml
  | beforeHead
  | inHead
  | inHeadNoscript
  | afterHead
  | inBody
  | text
  | inTable
  | inTableText
  | inCaption
  | inColumnGroup
  | inTableBody
  | inRow
  | inCell
  | inSelect
  | inSelectInTable
  | afterBody
  | inFrameset
  | afterFrameset
  | afterAfterBody
  | afterAfterFrameset
  deriving Repr, DecidableEq

/-- The state of the construction of a tree. -/
structure Builder where
  draft : Draft
  /-- The open elements, innermost first. -/
  opened : List Nat
  /-- The formatting elements in force, latest first; `none` marks where a cell or the like
  begins. -/
  formatting : List (Option Nat)
  mode : Mode
  /-- The mode to go back to behind the text of an element. -/
  modeAfterText : Mode
  /-- The mode to go back to behind text between the parts of a table. -/
  modeAfterTableText : Mode
  /-- The text between the parts of a table that waits for its place. -/
  tableText : String
  head : Option Nat
  form : Option Nat
  /-- Whether the document type lets a table stand in a paragraph. -/
  lenient : Bool
  /-- Whether a frameset may still take the place of the body. -/
  framesetAllowed : Bool
  /-- Whether a line feed at the start of the next white space is left out. -/
  dropsLineFeed : Bool
  /-- Whether what does not belong in a table goes in front of it. -/
  fostering : Bool
  /-- What the characters that come next are taken for. -/
  content : ContentModel

/-- What comes of reading a token: the builder, and whether the token is to be read again in the
mode that the builder is in now. -/
structure Step where
  builder : Builder
  again : Bool

/-- The step that is done with its token. -/
def Builder.done (b : Builder) : Step :=
  ⟨b, false⟩

/-- The step that reads its token again. -/
def Builder.retry (b : Builder) : Step :=
  ⟨b, true⟩

/-- Where a search among the open elements ends. -/
inductive Scope where
  | general
  | button
  | list
  | table
  | select
  deriving Repr, DecidableEq

/-- Whether an element ends the search. -/
def Scope.isBound (scope : Scope) (space : Namespace) (name : String) : Bool :=
  match scope with
  | .general => isScope space name
  | .button => isScope space name || (space = .html && name == "button")
  | .list => isScope space name || (space = .html && (name == "ol" || name == "ul"))
  | .table => space = .html && (name == "html" || name == "table")
  | .select => !(space = .html && (name == "optgroup" || name == "option"))

namespace Builder

/-- The builder for a document of which nothing was read. -/
def start : Builder where
  draft := Draft.empty
  opened := []
  formatting := []
  mode := .initial
  modeAfterText := .initial
  modeAfterTableText := .initial
  tableText := ""
  head := none
  form := none
  lenient := false
  framesetAllowed := true
  dropsLineFeed := false
  fostering := false
  content := .markup

/-! ## Open elements -/

/-- The name of an element. -/
def name (b : Builder) (n : Nat) : String :=
  b.draft.name n

/-- The namespace of an element. -/
def space (b : Builder) (n : Nat) : Namespace :=
  (b.draft.space? n).getD .html

/-- The innermost open element, or the document. -/
def current (b : Builder) : Nat :=
  b.opened.head?.getD Draft.root

/-- The name of the innermost open element. -/
def currentName (b : Builder) : String :=
  b.name b.current

/-- The outermost open element, or the document. -/
def outermost (b : Builder) : Nat :=
  b.opened.getLast?.getD Draft.root

/-- The second open element from outside, if it is a body. -/
def body? (b : Builder) : Option Nat :=
  (b.opened.reverse[1]?).filter fun n => b.name n == "body"

/-- Goes into a mode. -/
def setMode (b : Builder) (mode : Mode) : Builder :=
  { b with mode := mode }

/-- Closes the innermost open element. -/
def pop (b : Builder) : Builder :=
  { b with opened := b.opened.tail }

/-- Closes elements up to and with the innermost that satisfies a condition. -/
def popThrough (b : Builder) (p : Nat → Bool) : Builder :=
  { b with opened := (b.opened.dropWhile fun n => !p n).tail }

/-- Closes elements up to and with the innermost of this name. -/
def popThroughName (b : Builder) (name : String) : Builder :=
  b.popThrough fun n => b.name n == name

/-- Closes elements down to the innermost with one of these names. -/
def popTo (b : Builder) (names : List String) : Builder :=
  { b with opened := b.opened.dropWhile fun n => !names.contains (b.name n) }

/-- Closes an element wherever it stands among the open ones. -/
def unopen (b : Builder) (n : Nat) : Builder :=
  { b with opened := b.opened.erase n }

/-- Whether an element that satisfies a condition is open within a scope. -/
def inScopeWhere (b : Builder) (scope : Scope) (p : Nat → Bool) : Bool :=
  go b.opened
where
  go : List Nat → Bool
    | [] => false
    | n :: rest => p n || (!scope.isBound (b.space n) (b.name n) && go rest)

/-- Whether an element of this name is open within a scope. -/
def inScope (b : Builder) (name : String) (scope : Scope) : Bool :=
  b.inScopeWhere scope fun n => b.space n = .html && b.name n == name

/-- Closes the elements whose end tag may be left out, but for those of one name. -/
def closeImplied (b : Builder) (kept : Option String) : Builder :=
  { b with
    opened := b.opened.dropWhile fun n =>
      Vocabulary.impliedEnds.contains (b.name n) && some (b.name n) != kept }

/-! ## Places -/

/-- Whether what comes next does not belong where it stands in a table. -/
def isFostering (b : Builder) : Bool :=
  b.fostering && Vocabulary.tableContexts.contains b.currentName

/-- The innermost open table. -/
def table? (b : Builder) : Option Nat :=
  b.opened.find? fun n => b.name n == "table"

/-- Where content goes that does not belong in a table: an element, and the child of it that the
content goes in front of. -/
def fosterPlace (b : Builder) : Nat × Option Nat :=
  match b.table? with
  | none => (b.outermost, none)
  | some table =>
    match b.draft.parent? table with
    | some parent => (parent, some table)
    | none =>
      (((b.opened.dropWhile (· != table)).tail.head?).getD b.outermost, none)

/-- Puts a node in its place for content that does not belong in a table. -/
def foster (b : Builder) (n : Nat) : Builder :=
  match b.fosterPlace with
  | (parent, some sibling) => { b with draft := b.draft.insertBefore parent sibling n }
  | (parent, none) => { b with draft := b.draft.append parent n }

/-- Puts a new element in its place and opens it. -/
def openNode (b : Builder) (n : Nat) : Builder :=
  let b := if b.isFostering then b.foster n else { b with draft := b.draft.append b.current n }
  { b with opened := n :: b.opened }

/-- Opens a new element of a namespace. -/
def openIn (b : Builder) (space : Namespace) (tag : Tag) : Builder :=
  let (n, draft) :=
    b.draft.create (.element space tag.name (attributeValues tag.name tag.attributes))
  { b with draft := draft }.openNode n

/-- Opens a new element. -/
def openTag (b : Builder) (tag : Tag) : Builder :=
  b.openIn .html tag

/-- Opens a new element without attributes. -/
def openName (b : Builder) (name : String) : Builder :=
  b.openTag (Tag.named name)

/-- Adds an element without content. -/
def addEmpty (b : Builder) (tag : Tag) : Builder :=
  (b.openTag tag).pop

/-- Adds text in its place. -/
def addText (b : Builder) (data : String) : Builder :=
  if b.isFostering then
    match b.fosterPlace with
    | (parent, some sibling) =>
      { b with draft := b.draft.insertTextBefore parent sibling data }
    | (parent, none) => { b with draft := b.draft.appendText parent data }
  else { b with draft := b.draft.appendText b.current data }

/-- Adds a string of another sort behind the children of a node. -/
def addString (b : Builder) (parent : Nat) (sort : Markup.StringSort) (data : String) : Builder :=
  let (n, draft) := b.draft.create (.string sort data)
  { b with draft := draft.append parent n }

/-- Adds a comment behind the children of a node. -/
def addComment (b : Builder) (parent : Nat) (data : String) : Builder :=
  b.addString parent .comment data

/-- Opens an element whose characters are no markup, and goes into the mode for its text. -/
def openText (b : Builder) (tag : Tag) (content : ContentModel) : Builder :=
  { b.openTag tag with content := content, modeAfterText := b.mode, mode := .text }

/-- Runs an operation while what does not belong in a table goes in front of it. -/
def whileFostering (b : Builder) (f : Builder → Builder) : Builder :=
  { f { b with fostering := true } with fostering := false }

/-- Gives an open element those attributes of a tag that it does not have. -/
def mergeAttributes (b : Builder) (n : Nat) (tag : Tag) : Builder :=
  { b with
    draft := b.draft.addAttributes n (attributeValues (b.name n) tag.attributes) }

/-! ## Modes -/

/-- The mode that an open element puts the builder in. -/
def modeOf? (name : String) : Option Mode :=
  match name with
  | "select" => some .inSelect
  | "td" | "th" => some .inCell
  | "tr" => some .inRow
  | "tbody" | "thead" | "tfoot" => some .inTableBody
  | "caption" => some .inCaption
  | "colgroup" => some .inColumnGroup
  | "table" => some .inTable
  | "head" | "body" => some .inBody
  | "frameset" => some .inFrameset
  | "html" => some .beforeHead
  | _ => none

/-- Goes into the mode that the innermost open elements ask for. -/
def resetMode (b : Builder) : Builder :=
  let modes := b.opened.filterMap fun n =>
    if b.space n = .html then modeOf? (b.name n) else none
  b.setMode (modes.head?.getD .inBody)

end Builder

end TypedMarkup.Html
