import TypedMarkup.Catalog
import TypedMarkup.Value

/-!
# Kinds of output nodes

The closed set of node kinds, the four standard element shapes, and the element classes that
callers declare. An `ElementType` is a standard shape or a declared class; it fixes whether the
element owns children, its layout and its kind.
-/

namespace TypedMarkup

/-- The kinds of output nodes. -/
inductive NodeKind where
  | blockContainer
  | inlineContainer
  | blockVoid
  | inlineVoid
  | customContainer
  | customVoid
  | text
  | comment
  | rawData
  deriving Repr, DecidableEq

/-- The name of a kind. -/
def NodeKind.name : NodeKind → String
  | blockContainer => "block_container"
  | inlineContainer => "inline_container"
  | blockVoid => "block_void"
  | inlineVoid => "inline_void"
  | customContainer => "custom_container"
  | customVoid => "custom_void"
  | text => "text"
  | comment => "comment"
  | rawData => "raw_data"

/-- The shapes of standard elements. -/
inductive Shape where
  | blockContainer
  | inlineContainer
  | blockVoid
  | inlineVoid
  deriving Repr, DecidableEq

namespace Shape

/-- Whether elements of this shape own children. -/
def ownsChildren : Shape → Bool
  | blockContainer | inlineContainer => true
  | blockVoid | inlineVoid => false

/-- The layout of elements of this shape. -/
def display : Shape → Layout
  | blockContainer | blockVoid => .block
  | inlineContainer | inlineVoid => .inline

/-- The kind of elements of this shape. -/
def kind : Shape → NodeKind
  | blockContainer => .blockContainer
  | inlineContainer => .inlineContainer
  | blockVoid => .blockVoid
  | inlineVoid => .inlineVoid

/-- The name of the shape as an element type. -/
def typeName : Shape → String
  | blockContainer => "BlockContainerElement"
  | inlineContainer => "InlineContainerElement"
  | blockVoid => "BlockVoidElement"
  | inlineVoid => "InlineVoidElement"

/-- The shape for a content model and a layout, and whether it had to be guessed; `none` stands for
a content model or layout that is not known. A guess is a block container, or for a void element an
inline one. -/
def choose (content : Option ContentModel) (layout : Option Layout) : Shape × Bool :=
  match content with
  | some .void =>
    match layout with
    | some .block => (blockVoid, false)
    | some .inline | some .inlineBlock => (inlineVoid, false)
    | none => (inlineVoid, true)
  | some .container | some .rawText | some .escapableText =>
    match layout with
    | some .block => (blockContainer, false)
    | some .inline | some .inlineBlock => (inlineContainer, false)
    | none => (blockContainer, true)
  | none => (blockContainer, true)

/-- The shape of elements with this classification. -/
def ofInfo (info : ElementInfo) : Shape :=
  (choose (some info.content) (some info.layout)).1

end Shape

/-- What a declared class says about children. A bare class says nothing and is no type of output
elements. -/
inductive Form where
  | container
  | void
  | bare
  deriving Repr, DecidableEq

/-- An element class that a caller declares. Classes are told apart by their names. -/
structure SemanticClass where
  name : String
  /-- The declared classes that this one extends, nearest first. -/
  extended : List String
  form : Form
  /-- The tag as declared; empty when none is. -/
  tag : String
  display : Layout
  /-- The attributes that every new instance starts with. -/
  presets : List (String × Value)
  deriving Repr

/-- Whether instances of the class are instances of the class with this name. -/
def SemanticClass.isA (c : SemanticClass) (name : String) : Bool :=
  c.name == name || c.extended.contains name

/-- The type of an element. -/
inductive ElementType where
  | standard (shape : Shape)
  | semantic (cls : SemanticClass)
  deriving Repr

namespace ElementType

/-- Whether elements of this type own children. -/
def ownsChildren : ElementType → Bool
  | standard shape => shape.ownsChildren
  | semantic cls => cls.form == .container

/-- The layout of elements of this type. -/
def display : ElementType → Layout
  | standard shape => shape.display
  | semantic cls => cls.display

/-- The kind of elements of this type; instances of a bare class have none. -/
def kind? : ElementType → Option NodeKind
  | standard shape => some shape.kind
  | semantic cls =>
    match cls.form with
    | .container => some .customContainer
    | .void => some .customVoid
    | .bare => none

/-- The name of the type. -/
def name : ElementType → String
  | standard shape => shape.typeName
  | semantic cls => cls.name

/-- The declared class of the type. -/
def class? : ElementType → Option SemanticClass
  | standard _ => none
  | semantic cls => some cls

end ElementType

end TypedMarkup
