import TypedMarkup.Value
import TypedMarkup.Text.Case

/-!
# Attributes

An attribute has a name, kept exactly as given, and a text. The attributes of an element are
ordered and are stored under their exact names; reading falls back to the first name that is equal
up to case (`find?`), while writing never does (`set`).
-/

namespace TypedMarkup

/-- Tells the nodes of a store apart. -/
abbrev NodeId := Nat

/-- The text that an attribute makes of a value; null is the empty text. -/
def Value.attributeText : Value → String
  | .null => ""
  | v => v.shown

/-- An attribute, with the element that owns it. -/
structure Attribute where
  name : String
  value : String
  owner : Option NodeId
  deriving Repr, DecidableEq

namespace Attribute

/-- A new attribute that no element owns. -/
def ofValue (name : String) (value : Value) : Attribute :=
  ⟨name, value.attributeText, none⟩

/-- What stands before the first colon of the name, if there is one. -/
def namespacePrefix? (a : Attribute) : Option String :=
  let cs := a.name.toList
  if cs.contains ':' then some (String.ofList (cs.takeWhile (· ≠ ':'))) else none

/-- What stands behind the first colon of the name, or all of it. -/
def localName (a : Attribute) : String :=
  let cs := a.name.toList
  if cs.contains ':' then String.ofList ((cs.dropWhile (· ≠ ':')).drop 1) else a.name

/-- A copy that no element owns. -/
def clone (a : Attribute) : Attribute :=
  ⟨a.name, a.value, none⟩

/-- What two attributes are compared by; the owner plays no part. -/
def key (a : Attribute) : String × String :=
  (a.name, a.value)

/-- Whether two attributes are equal. -/
def equal (a b : Attribute) : Bool :=
  a.key == b.key

/-- The attribute in messages. -/
def describe (a : Attribute) : String :=
  "Attr(" ++ Text.quote a.name ++ ", " ++ Text.quote a.value ++ ")"

end Attribute

/-- The attributes of an element, in the order in which their names were first set. -/
abbrev Attributes := List Attribute

namespace Attributes

/-- The attribute stored under exactly this name. -/
def stored? (name : String) (as : Attributes) : Option Attribute :=
  List.find? (fun a => a.name == name) as

/-- The attribute that a name reads: the one stored under exactly this name, else the first whose
name is equal in small letters. -/
def find? (name : String) (as : Attributes) : Option Attribute :=
  match as.stored? name with
  | some a => some a
  | none => List.find? (fun a => Text.lower a.name == Text.lower name) as

/-- Sets the text stored under exactly this name: a stored attribute keeps its place, a new one
goes to the end and belongs to `owner`. -/
def set (owner : Option NodeId) (name value : String) : Attributes → Attributes
  | [] => [⟨name, value, owner⟩]
  | a :: as =>
    if a.name = name then { a with value := value } :: as else a :: set owner name value as

/-- The attributes without the one stored under exactly this name. -/
def erase (name : String) : Attributes → Attributes
  | [] => []
  | a :: as => if a.name = name then as else a :: erase name as

/-- Takes out the attribute that a name reads; it then belongs to no element. -/
def remove (name : String) (as : Attributes) : Attributes × Option Attribute :=
  match as.find? name with
  | some a => (as.erase a.name, some { a with owner := none })
  | none => (as, none)

/-- Names and texts, in order. -/
def pairs (as : Attributes) : List (String × String) :=
  as.map fun a => (a.name, a.value)

/-- The text that a name reads. -/
def get? (name : String) (as : Attributes) : Option String :=
  (as.find? name).map Attribute.value

/-- The words of the class attribute, each once, in order. -/
def classList (as : Attributes) : List String :=
  (Text.words ((as.get? "class").getD "")).eraseDups

end Attributes

end TypedMarkup
