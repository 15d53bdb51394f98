import TypedMarkup.Text.Blank
import TypedMarkup.Value

/-!
# Attributes that hold lists

Some attributes hold words between blanks. Their value is the list of these words; that of all
others is text.
-/

namespace TypedMarkup.Html

/-- The attributes that hold words on every element. -/
def listAttributes : List String := ["class", "accesskey", "dropzone"]

/-- The attributes that hold words on elements of this name alone. -/
def ownListAttributes (element : String) : List String :=
  match element with
  | "a" | "link" => ["rel", "rev"]
  | "area" => ["rel"]
  | "td" | "th" => ["headers"]
  | "form" => ["accept-charset"]
  | "object" => ["archive"]
  | "icon" => ["sizes"]
  | "iframe" => ["sandbox"]
  | "output" => ["for"]
  | _ => []

/-- Whether the attribute holds words on elements of this name. -/
def isListValued (element key : String) : Bool :=
  listAttributes.contains key || (ownListAttributes element).contains key

/-- The value that a text in markup gives an attribute. -/
def attributeValue (element key text : String) : Value :=
  if isListValued element key then .list ((Text.words text).map .text) else .text text

/-- The values of the attributes of a tag. -/
def attributeValues (element : String) (attributes : List (String × String)) :
    List (String × Value) :=
  attributes.map fun a => (a.1, attributeValue element a.1 a.2)

end TypedMarkup.Html
