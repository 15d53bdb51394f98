import TypedMarkup.Fault
import TypedMarkup.Semantic.Tree

/-!
# Outlines

The outline of a forest has one entry a node, in document order, indented by two spaces a level.
An entry names the kind of its node; for an element it adds tag and attributes, for text and
comments the data in quotes, for raw data the number of characters.
-/

namespace TypedMarkup.Outline

/-- The indentation of a level; a level below zero has none. -/
def pad (level : Int) : String :=
  String.ofList (List.replicate (2 * level.toNat) ' ')

/-- An attribute in the entry of its element. -/
def attributeText (a : String × String) : String :=
  " " ++ a.1 ++ "=\"" ++ a.2 ++ "\""

/-- The name of a kind as it begins an entry. -/
def kindName (kind : Option NodeKind) : String :=
  match kind with
  | some k => k.name
  | none => ""

/-- The entry of a node, without its indentation. -/
def label : Tree → String
  | .element type tag attributes _ =>
    kindName type.kind? ++ " <" ++ tag ++ Text.join "" (attributes.map attributeText) ++ ">"
  | .text data => "text " ++ Text.quote data
  | .comment data => "comment " ++ Text.quote data
  | .rawData data => "raw_data (" ++ Nat.repr data.length ++ " chars)"

mutual

/-- The entries of a tree whose root stands at `level`. -/
def lines (level : Int) : Tree → List String
  | .element type tag attributes cs =>
    (pad level ++ label (.element type tag attributes [])) :: forest (level + 1) cs
  | .text data => [pad level ++ label (.text data)]
  | .comment data => [pad level ++ label (.comment data)]
  | .rawData data => [pad level ++ label (.rawData data)]

/-- The entries of a forest whose roots stand at `level`. -/
def forest (level : Int) : List Tree → List String
  | [] => []
  | t :: ts => lines level t ++ forest level ts

end

/-- The outline of a forest; an element without a kind has no entry, and is a fault. -/
def write (trees : List Tree) (level : Int) : Except Fault (List String) :=
  if Tree.areConcrete trees then .ok (forest level trees) else .error .noSuchMember

end TypedMarkup.Outline
