import TypedMarkup.Catalog
import TypedMarkup.Markup.Node

/-!
# Categories of parsed nodes

What a parsed node turns into. The category hangs on the node and, for plain strings, on whether
the element around it is a standard one whose content is raw text.
-/

namespace TypedMarkup.Markup

/-- What a parsed node turns into. -/
inductive Category where
  | element
  | text
  | comment
  | rawData
  | unknown
  deriving Repr, DecidableEq

/-- The name of a category. -/
def Category.name : Category → String
  | element => "element"
  | text => "text"
  | comment => "comment"
  | rawData => "raw_data"
  | unknown => "unknown"

/-- Whether strings in an element of this name are raw text. -/
def isRawTextElement (name : String) : Bool :=
  match Catalog.classify? name with
  | some info => info.content == .rawText
  | none => false

/-- The category of a string of this sort in an element named `parent`, or in none. -/
def StringSort.category (parent : Option String) : StringSort → Category
  | comment => .comment
  | cdata | script | stylesheet => .rawData
  | preformatted | doctype | processing | xmlProcessing | declaration => .unknown
  | plain | template | rubyText | rubyParenthesis =>
    match parent with
    | some name => if isRawTextElement name then .rawData else .text
    | none => .text

/-- The category of a node in an element named `parent`, or in none. -/
def Node.category (parent : Option String) : Node → Category
  | element .. => .element
  | string sort _ => sort.category parent
  | foreign _ | absent => .unknown

/-- The name of the type of a node in messages. -/
def Node.typeName : Node → String
  | element .. => "Tag"
  | string sort _ => sort.typeName
  | foreign name => name
  | absent => "NoneType"

end TypedMarkup.Markup
