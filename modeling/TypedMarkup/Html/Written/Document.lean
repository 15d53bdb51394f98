import TypedMarkup.Html.ListValued
import TypedMarkup.Html.Written.Piece

/-!
# Documents as they are written

Elements nest as their tags do: an end tag closes the innermost open element of its name with all
that is open in it, and the end of the input closes the rest. Only elements that cannot have content
are closed at once. Text between two tags that is nothing but white space becomes a single
character, except where it is kept as written.
-/

namespace TypedMarkup.Html.Written

/-- An open element. Its children are kept last one first. -/
structure Frame where
  name : String
  attributes : List (String × Value)
  children : List Markup.Node

/-- A document that was read in part: the open elements, innermost first, the nodes in front of
them, last one first, the text since the last tag, and the names of elements that were closed for
lack of content. -/
structure Nest where
  frames : List Frame
  before : List Markup.Node
  text : Option String
  closedEarly : List String

namespace Nest

/-- The document of which nothing was read. -/
def empty : Nest :=
  ⟨[], [], none, []⟩

/-- The elements that cannot have content. -/
def contentless : List String := [
  "area", "base", "basefont", "bgsound", "br", "col", "command", "embed", "frame", "hr", "image",
  "img", "input", "isindex", "keygen", "link", "menuitem", "meta", "nextid", "param", "source",
  "spacer", "track", "wbr"]

/-- The elements whose white space is kept as written. -/
def keepsSpace : List String := ["pre", "textarea"]

/-- The sort of the text in an element of this name, if it is not plain. -/
def ownSort? (name : String) : Option Markup.StringSort :=
  match name with
  | "rt" => some .rubyText
  | "rp" => some .rubyParenthesis
  | "style" => some .stylesheet
  | "script" => some .script
  | "template" => some .template
  | _ => none

/-- The sort of the text that comes next. -/
def textSort (t : Nest) : Markup.StringSort :=
  ((t.frames.filterMap fun f => ownSort? f.name).head?).getD .plain

/-- A single character for text that is nothing but white space, other text as it is. -/
def tighten (data : String) : String :=
  if data.toList.all isSpace then (if data.toList.contains '\n' then "\n" else " ") else data

/-- Adds a node behind what was read. -/
def add (t : Nest) (n : Markup.Node) : Nest :=
  match t.frames with
  | [] => { t with before := n :: t.before }
  | f :: rest => { t with frames := { f with children := n :: f.children } :: rest }

/-- Adds a string of some sort. -/
def addString (t : Nest) (sort : Markup.StringSort) (data : String) : Nest :=
  let kept := t.frames.any fun f => keepsSpace.contains f.name
  t.add (.string sort (if kept then data else tighten data))

/-- Adds the text since the last tag. -/
def flush (t : Nest) : Nest :=
  match t.text with
  | none => t
  | some data => { t with text := none }.addString t.textSort data

/-- Closes the innermost open element. -/
def close (t : Nest) : Nest :=
  match t.frames with
  | [] => t
  | f :: rest => { t with frames := rest }.add (.element f.name f.attributes f.children.reverse)

/-- Closes at most this many open elements. -/
def closeMany : (count : Nat) → Nest → Nest
  | 0, t => t
  | count + 1, t => closeMany count t.close

/-- Closes the innermost open element of this name with all that is open in it. -/
def closeNamed (t : Nest) (name : String) : Nest :=
  let t := t.flush
  if t.frames.any (·.name == name) then
    (t.closeMany (t.frames.takeWhile (·.name != name)).length).close
  else t

/-- Reads an end tag. One for an element that was closed for lack of content counts for nothing. -/
def readClosing (t : Nest) (name : String) : Nest :=
  if t.closedEarly.contains name then { t with closedEarly := t.closedEarly.erase name }
  else t.closeNamed name

/-- Opens an element. -/
def openElement (t : Nest) (name : String) (attributes : Entries String) : Nest :=
  let t := t.flush
  { t with frames := ⟨name, attributeValues name attributes, []⟩ :: t.frames }

/-- Reads a piece. -/
def read (t : Nest) (piece : Piece) : Nest :=
  match piece with
  | .text data => { t with text := some (t.text.getD "" ++ data) }
  | .string sort data => t.flush.addString sort data
  | .closing name => t.readClosing name
  | .opening name attributes closed =>
    let t := t.openElement name attributes
    if closed then t.readClosing name
    else if contentless.contains name then
      let t := t.close
      { t with closedEarly := name :: t.closedEarly }
    else t

/-- The document, once all is read. -/
def finish (t : Nest) : Markup.Document :=
  let t := t.flush
  (t.closeMany t.frames.length).before.reverse

end Nest

/-- The document that markup stands for as it is written. -/
def document (markup : String) : Except Fault Markup.Document :=
  (pieces markup).map fun ps => (ps.foldl Nest.read Nest.empty).finish

end TypedMarkup.Html.Written
