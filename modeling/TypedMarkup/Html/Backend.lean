import TypedMarkup.Html.Tree.Construction
import TypedMarkup.Html.Written.Document
import TypedMarkup.Markup.Source

/-!
# The parsers there are

Two parsers read markup: one by the standard, which brings in what was left out and moves what is
out of place, and one as it is written. Features name them; several features must hold of one
parser together, and features that nobody has count for nothing beside others.
-/

namespace TypedMarkup.Html

/-- The parsers. -/
inductive Parser where
  | standard
  | written
  deriving Repr, DecidableEq

/-- The parsers that have a feature, the preferred one first. -/
def Parser.withFeature (feature : String) : List Parser :=
  match feature with
  | "html" => [standard, written]
  | "html5lib" | "html5" | "permissive" => [standard]
  | "html.parser" | "strict" => [written]
  | _ => []

/-- The parser with all of the features that some parser has; there must be one such feature. -/
def Parser.choose? (features : List String) : Option Parser :=
  match (features.map Parser.withFeature).filter fun ps => !ps.isEmpty with
  | [] => none
  | first :: rest => first.find? fun p => rest.all fun ps => ps.contains p

/-- The document that a parser makes of markup. -/
def Parser.read (parser : Parser) (markup : String) : Except Fault Markup.Document :=
  match parser with
  | standard => .ok (documentOfMarkup markup)
  | written => Written.document markup

/-- The features that are asked for when none are. -/
def defaultFeatures : List String := ["html", "fast"]

/-- The features that a value names. -/
def featuresOf (value : Value) : Except Fault (List String) :=
  match value with
  | .null | .list [] | .table [] => .ok defaultFeatures
  | .text s => .ok [s]
  | .list items => .ok (items.map Value.shown)
  | .table entries => .ok (entries.map Prod.fst)
  | .bool _ | .int _ | .double _ => .error (.noLength value.kindName)

/-- Reads markup with the parser that has the features named. -/
def backend : Markup.Backend := fun value markup => do
  let features ← featuresOf value
  match Parser.choose? features with
  | some parser => parser.read markup
  | none => .error (.noParser (Text.join "," features))

end TypedMarkup.Html
