import TypedMarkup.Entries
import TypedMarkup.Value

/-!
# Parsed markup

The nodes that a markup parser gives: elements with attributes and children, and strings of many
sorts. `absent` stands where there is no node, and `foreign` for an object that no parser makes.
-/

namespace TypedMarkup.Markup

/-- The sorts of strings in parsed markup. -/
inductive StringSort where
  | plain
  | template
  | rubyText
  | rubyParenthesis
  | comment
  | cdata
  | script
  | stylesheet
  | preformatted
  | doctype
  | processing
  | xmlProcessing
  | declaration
  deriving Repr, DecidableEq

/-- The name of a sort in messages. -/
def StringSort.typeName : StringSort → String
  | plain => "NavigableString"
  | template => "TemplateString"
  | rubyText => "RubyTextString"
  | rubyParenthesis => "RubyParenthesisString"
  | comment => "Comment"
  | cdata => "CData"
  | script => "Script"
  | stylesheet => "Stylesheet"
  | preformatted => "PreformattedString"
  | doctype => "Doctype"
  | processing => "ProcessingInstruction"
  | xmlProcessing => "XMLProcessingInstruction"
  | declaration => "Declaration"

/-- A node of parsed markup. An element without a name has the empty name. -/
inductive Node where
  | element (name : String) (attributes : List (String × Value)) (children : List Node)
  | string (sort : StringSort) (data : String)
  | foreign (typeName : String)
  | absent
  deriving Repr, Inhabited

/-- A parsed document: its top nodes. -/
abbrev Document := List Node

namespace Node

/-- Whether the node is an element. -/
def isElement : Node → Bool
  | element .. => true
  | string .. | foreign _ | absent => false

/-- Whether the node is an element with exactly this name. -/
def hasName (name : String) : Node → Bool
  | element n .. => n == name
  | string .. | foreign _ | absent => false

/-- The nodes below a node, its children. -/
def children : Node → List Node
  | element _ _ cs => cs
  | string .. | foreign _ | absent => []

mutual

/-- The elements of a tree with exactly this name, in document order. -/
def named (name : String) : Node → List Node
  | element n attributes cs =>
    if n = name then element n attributes cs :: allNamed name cs else allNamed name cs
  | string .. => []
  | foreign _ => []
  | absent => []

/-- The elements of several trees with exactly this name, in document order. -/
def allNamed (name : String) : List Node → List Node
  | [] => []
  | n :: ns => named name n ++ allNamed name ns

end

end Node

/-- The elements of a document with exactly this name, in document order. -/
def Document.findAll (document : Document) (name : String) : List Node :=
  Node.allNamed name document

/-- The body of a document: the first element named `body`, at any depth. -/
def Document.body? (document : Document) : Option Node :=
  (document.findAll "body").head?

end TypedMarkup.Markup
