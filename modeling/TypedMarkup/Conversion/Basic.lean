import TypedMarkup.Markup.Category
import TypedMarkup.Notice

/-!
# Conversion

Parsed markup becomes output trees. A registered tag is built by its constructor, any other by the
catalog; attributes are always copied, and children are converted only into elements that own
children, behind those that a constructor has put there. Strings become text, comments or raw data,
and what has no category is reported and left out. `Converter.node` converts any node,
`Converter.element` an element.
-/

namespace TypedMarkup

/-- What conversion leaves besides trees: the calls to factories, last first, and the names of the
types of the nodes that were left out, in order. -/
structure Session where
  calls : Calls
  unknown : List String
  deriving Repr

/-- Before any conversion. -/
def Session.initial : Session :=
  ⟨[], []⟩

/-- A conversion may fail, and then still leaves what it has done so far. -/
abbrev Conversion (α : Type) := ExceptT Fault (StateM Session) α

/-- What a conversion reads: the registry, and whether left-out nodes are reported. -/
structure Converter where
  registry : Registry
  reportUnknown : Bool

namespace Converter

/-- Reports a node that is left out. -/
def report (cv : Converter) (typeName : String) : Conversion Unit :=
  if cv.reportUnknown then modify fun s => { s with unknown := s.unknown ++ [typeName] }
  else pure ()

/-- What a constructor gives when it is called now. -/
def call (constructor : Constructor) : Conversion Product := do
  let session ← get
  let (product, calls) := constructor.call session.calls
  set { session with calls := calls }
  liftExcept product
where
  liftExcept (result : Except Fault Product) : Conversion Product :=
    match result with
    | .ok product => pure product
    | .error fault => throw fault

/-- The new node for an element with this tag, in small letters. -/
def build (cv : Converter) (tag : String) : Conversion Product :=
  match cv.registry.lookup? tag with
  | some d => call d.constructor
  | none => pure (.node (Tree.standard (Shape.ofInfo (Catalog.resolve tag)) tag))

/-- The text items of a list, or a fault if there are others. -/
def textItems : List Value → Except Fault (List String)
  | [] => .ok []
  | .text s :: rest => (textItems rest).map (s :: ·)
  | _ :: _ => .error .notText

/-- The text of an attribute in the output: a list is joined with single spaces. -/
def attributeText : Value → Except Fault String
  | .list items => (textItems items).map (Text.join " ")
  | v => .ok v.attributeText

/-- The attributes with those of the input set in turn. -/
def copyAttributes (onto : List (String × String)) :
    List (String × Value) → Except Fault (List (String × String))
  | [] => .ok onto
  | (name, value) :: rest =>
    match attributeText value with
    | .ok text => copyAttributes (Entries.put name text onto) rest
    | .error fault => .error fault

/-- Why the attributes of an input element cannot be copied to something that has none. -/
def copyFault? : List (String × Value) → Option Fault
  | [] => none
  | (_, value) :: _ =>
    match attributeText value with
    | .ok _ => some .noSuchMember
    | .error fault => some fault

/-- The trees of what a conversion gave, if anything. -/
def leaf (attributes : List (String × Value)) (given : Except Fault (Option Tree)) :
    Conversion (Option Tree) :=
  match copyFault? attributes, given with
  | some fault, _ => throw fault
  | none, .error fault => throw fault
  | none, .ok tree => pure tree

/-- The output of a string in an element named `parent`, or in none. -/
def string (cv : Converter) (parent : Option String) (sort : Markup.StringSort) (data : String) :
    Conversion (Option Tree) :=
  match sort.category parent with
  | .text =>
    let text := Text.strip data
    pure (if text.isEmpty then none else some (.text text))
  | .comment => pure (some (.comment data))
  | .rawData => pure (if data.isEmpty then none else some (.rawData data))
  | .element | .unknown => do
    cv.report sort.typeName
    pure none

mutual

/-- The output of a node in an element named `parent`, or in none. -/
def node (cv : Converter) (parent : Option String) : Markup.Node → Conversion (Option Tree)
  | .absent => pure none
  | .foreign typeName => do
    cv.report typeName
    pure none
  | .string sort data => cv.string parent sort data
  | .element name attributes cs => do
    match ← cv.build (Text.lower name) with
    | .node (.element type tag presets own) =>
      match copyAttributes presets attributes with
      | .error fault => throw fault
      | .ok attributes =>
        if type.ownsChildren then do
          let below ← cv.nodes name cs
          pure (some (.element type tag attributes (own ++ below)))
        else pure (some (.element type tag attributes []))
    | .node other => leaf attributes (.ok (some other))
    | .value .null => leaf attributes (.ok none)
    | .value _ => leaf attributes (.error .noSuchMember)

/-- The outputs of the nodes in an element named `parent`, in order. -/
def nodes (cv : Converter) (parent : String) : List Markup.Node → Conversion (List Tree)
  | [] => pure []
  | n :: ns => do
    let tree ← cv.node (some parent) n
    let trees ← cv.nodes parent ns
    pure (tree.toList ++ trees)

end

/-- The output of an element; where there is no node there is no output. -/
def element (cv : Converter) : Markup.Node → Conversion (Option Tree)
  | .element name attributes cs => cv.node none (.element name attributes cs)
  | .absent => pure none
  | .string .. | .foreign _ => throw .noSuchMember

/-- The outputs of several elements, in order. -/
def elements (cv : Converter) : List Markup.Node → Conversion (List Tree)
  | [] => pure []
  | n :: ns => do
    let tree ← cv.element n
    let trees ← cv.elements ns
    pure (tree.toList ++ trees)

end Converter

/-- Runs a conversion: its result, and what it leaves. -/
def Conversion.exec {α : Type} (c : Conversion α) (session : Session) :
    Except Fault α × Session :=
  (ExceptT.run c).run session

end TypedMarkup
