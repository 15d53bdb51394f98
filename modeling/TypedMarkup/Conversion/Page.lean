import TypedMarkup.Conversion.Basic
import TypedMarkup.Markup.Source

/-!
# Converting pages

From markup to output trees. A `PageConverter` has a source of parsed markup and a converter: it
converts the elements at the top of a fragment, the body of a document, or every element of a
document that belongs to a registered class.
-/

namespace TypedMarkup

/-- Reads markup and converts it. -/
structure PageConverter where
  source : Markup.Source
  converter : Converter

/-- A document as markup, or parsed already. -/
inductive Page where
  | content (c : Markup.Content)
  | parsed (document : Markup.Document)

/-- What a conversion of markup gives: the result, the history of calls to factories, the attempts
to parse, and the notices in order. -/
structure Report (α : Type) where
  result : Except Fault α
  calls : Calls
  attempts : List (String × Value)
  notices : List Notice

/-- The report with more notices behind it. -/
def Report.note {α : Type} (r : Report α) (notices : List Notice) : Report α :=
  { r with notices := r.notices ++ notices }

namespace PageConverter

/-- The converter that a configuration and a registry describe. -/
def make (config : Config) (registry : Registry) (backend : Markup.Backend) : PageConverter where
  source := .ofConfig config backend
  converter := ⟨registry, (config.read "converter.report_unknown_nodes" (.bool true)).isTruthy⟩

/-- The logger of this module. -/
def logger : String := "semantic_dom.converter.fragment_converter"

/-- The notice on the time that a conversion took, in ten-thousandths of a second. -/
def took (name : String) (elapsed : Int) : Notice :=
  .timed logger .debug ("FragmentConverter " ++ name ++ " took " ++ fourPlaces elapsed ++ " seconds")

/-- Converts what has been read, after the calls so far. -/
def convertRead {α β : Type} (reading : Markup.Reading α) (convert : α → Conversion β)
    (calls : Calls) : Report β :=
  match reading.result with
  | .error fault => ⟨.error fault, calls, reading.attempts, reading.notices⟩
  | .ok read =>
    let (result, session) := (convert read).exec ⟨calls, []⟩
    ⟨result, session.calls, reading.attempts,
      reading.notices ++ session.unknown.map .unknownNode⟩

/-- Reads a page as a document. -/
def read (pc : PageConverter) : Page → Markup.Reading Markup.Document
  | .content c => pc.source.readDocument c
  | .parsed document => ⟨.ok document, [], []⟩

/-- Converts the elements at the top of a fragment; its top text and comments are left out. The time
that this takes on the clock is given. -/
def convertFragment (pc : PageConverter) (content : Markup.Content) (calls : Calls)
    (elapsed : Int) : Report (List Tree) :=
  let report := convertRead (pc.source.readFragment content)
    (fun body => pc.converter.elements (body.children.filter Markup.Node.isElement)) calls
  report.note [took "convert_fragment" elapsed]

/-- Converts the body of a document, if it has one. The time that this takes is given. -/
def convertDocument (pc : PageConverter) (page : Page) (calls : Calls) (elapsed : Int) :
    Report (Option Tree) :=
  let reading := pc.read page
  let report := convertRead reading
    (fun document =>
      match document.body? with
      | some body => pc.converter.element body
      | none => pure none) calls
  let missing :=
    match reading.result with
    | .ok document => if document.body?.isNone then [Notice.bodyMissing] else []
    | .error _ => []
  report.note (missing ++ [took "convert_document" elapsed])

/-- The outputs of the elements that are instances of a class, in order. -/
def instances (cv : Converter) (c : SemanticClass) :
    List Markup.Node → Conversion (List Tree)
  | [] => pure []
  | n :: ns => do
    let tree ← cv.element n
    let trees ← instances cv c ns
    pure (tree.toList.filter (Tree.isInstance c.name) ++ trees)

/-- Converts every element of a document with the tag registered for a class, and keeps the
instances of the class, in document order. -/
def allOfClass (pc : PageConverter) (page : Page) (c : SemanticClass) (calls : Calls) :
    Report (List Tree) :=
  match pc.converter.registry.tagForClass c with
  | .error fault => ⟨.error fault, calls, [], []⟩
  | .ok tag =>
    let report := convertRead (pc.read page)
      (fun document => instances pc.converter c (document.findAll tag)) calls
    match report.result with
    | .ok trees => report.note [.found trees.length tag]
    | .error _ => report

end PageConverter

end TypedMarkup
