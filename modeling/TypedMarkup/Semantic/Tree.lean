import TypedMarkup.Semantic.Attribute
import TypedMarkup.Semantic.Kind

/-!
# Output trees

The typed tree that conversion gives: elements with a type, a tag in small letters and attributes,
and leaves for text, comments and raw data. `preorder` lists the nodes of a tree in document
order, and `textContent` gathers its text.
-/

namespace TypedMarkup

/-- A node of the output with all below it. Attributes are names and texts in order. -/
inductive Tree where
  | element (type : ElementType) (tag : String) (attributes : List (String × String))
    (children : List Tree)
  | text (data : String)
  | comment (data : String)
  | rawData (data : String)
  deriving Repr

namespace Tree

/-- The kind of the root. -/
def kind? : Tree → Option NodeKind
  | element type .. => type.kind?
  | text _ => some .text
  | comment _ => some .comment
  | rawData _ => some .rawData

/-- The name of the type of the root. -/
def typeName : Tree → String
  | element type .. => type.name
  | text _ => "Text"
  | comment _ => "Comment"
  | rawData _ => "RawData"

/-- The trees below the root. -/
def children : Tree → List Tree
  | element _ _ _ cs => cs
  | text _ | comment _ | rawData _ => []

/-- Whether the root is an element. -/
def isElement : Tree → Bool
  | element .. => true
  | text _ | comment _ | rawData _ => false

/-- The declared class of the root. -/
def class? : Tree → Option SemanticClass
  | element type .. => type.class?
  | text _ | comment _ | rawData _ => none

/-- Whether the root is an instance of the declared class with this name. -/
def isInstance (name : String) (t : Tree) : Bool :=
  match t.class? with
  | some c => c.isA name
  | none => false

mutual

/-- The nodes of a tree in document order, each with all below it. -/
def preorder : Tree → List Tree
  | element type tag attributes cs => element type tag attributes cs :: preorders cs
  | text data => [text data]
  | comment data => [comment data]
  | rawData data => [rawData data]

/-- The nodes of several trees in document order. -/
def preorders : List Tree → List Tree
  | [] => []
  | t :: ts => preorder t ++ preorders ts

end

/-- The nodes below the root in document order. -/
def descendants (t : Tree) : List Tree :=
  preorders t.children

mutual

/-- The text of a tree: the texts of its children that have any, with single spaces between. -/
def textContent : Tree → String
  | element _ _ _ cs => Text.join " " (textParts cs)
  | text data => data
  | comment _ => ""
  | rawData _ => ""

/-- The texts of several trees, without the empty ones. -/
def textParts : List Tree → List String
  | [] => []
  | t :: ts =>
    let part := textContent t
    if part.isEmpty then textParts ts else part :: textParts ts

end

mutual

/-- Whether every element of the tree has a kind, so that all nodes are of the nine kinds. -/
def isConcrete : Tree → Bool
  | element type _ _ cs => type.kind?.isSome && areConcrete cs
  | text _ => true
  | comment _ => true
  | rawData _ => true

/-- Whether every element of the trees has a kind. -/
def areConcrete : List Tree → Bool
  | [] => true
  | t :: ts => isConcrete t && areConcrete ts

end

/-- A new standard element without attributes. -/
def standard (shape : Shape) (tag : String) : Tree :=
  element (.standard shape) (Text.lower tag) [] []

end Tree

end TypedMarkup
