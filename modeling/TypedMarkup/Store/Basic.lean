import TypedMarkup.Fault
import TypedMarkup.Semantic.Tree

/-!
# The store of live nodes

A store holds nodes that can be moved and changed. Each node has a body, the parent it points to
and the list of its children; nodes are told apart by their numbers and none is ever taken out.
The views `body?`, `parent?` and `children` read a store, and `create` adds a node.
-/

namespace TypedMarkup

/-- What a node is, apart from its place. A plain node is of none of the nine kinds. -/
inductive Body where
  | plain
  | text (data : String)
  | comment (data : String)
  | rawData (data : String)
  | element (type : ElementType) (tag : String) (attributes : Attributes)
  deriving Repr

/-- Whether nodes with this body own children. -/
def Body.ownsChildren : Body → Bool
  | element type .. => type.ownsChildren
  | plain | text _ | comment _ | rawData _ => false

/-- A node with its links. Only nodes that own children ever list any. -/
structure Cell where
  body : Body
  parent : Option NodeId
  children : List NodeId
  deriving Repr

/-- The live nodes, by number. -/
structure Store where
  cells : Array Cell
  deriving Repr

namespace Store

/-- The store without nodes. -/
def empty : Store :=
  ⟨#[]⟩

/-- The number of nodes. -/
def size (s : Store) : Nat :=
  s.cells.size

/-- The body of a node. -/
def body? (s : Store) (n : NodeId) : Option Body :=
  s.cells[n]?.map Cell.body

/-- The parent that a node points to. -/
def parent? (s : Store) (n : NodeId) : Option NodeId :=
  s.cells[n]?.bind Cell.parent

/-- The nodes that a node lists as its children. -/
def children (s : Store) (n : NodeId) : List NodeId :=
  match s.cells[n]? with
  | some cell => cell.children
  | none => []

/-- Whether a node owns children. -/
def isContainer (s : Store) (n : NodeId) : Bool :=
  match s.body? n with
  | some body => body.ownsChildren
  | none => false

/-- Whether a node is an element. -/
def isElement (s : Store) (n : NodeId) : Bool :=
  match s.body? n with
  | some (.element ..) => true
  | _ => false

/-- Adds a node without parent and children, whose number is the old size. -/
def create (body : Body) (s : Store) : NodeId × Store :=
  (s.cells.size, ⟨s.cells.push ⟨body, none, []⟩⟩)

/-- Points a node to a parent, or to none. -/
def setParent (s : Store) (n : NodeId) (parent : Option NodeId) : Store :=
  ⟨s.cells.modify n fun cell => { cell with parent := parent }⟩

/-- Gives a node its list of children. -/
def setChildren (s : Store) (n : NodeId) (children : List NodeId) : Store :=
  ⟨s.cells.modify n fun cell => { cell with children := children }⟩

/-- Gives a node its body. -/
def setBody (s : Store) (n : NodeId) (body : Body) : Store :=
  ⟨s.cells.modify n fun cell => { cell with body := body }⟩

/-- The attributes of a node; `none` if it is no element. -/
def attributes? (s : Store) (n : NodeId) : Option Attributes :=
  match s.body? n with
  | some (.element _ _ attributes) => some attributes
  | _ => none

/-- Changes the attributes of a node; a node that is no element stays as it is. -/
def modifyAttributes (s : Store) (n : NodeId) (f : Attributes → Attributes) : Store :=
  match s.body? n with
  | some (.element type tag attributes) => s.setBody n (.element type tag (f attributes))
  | _ => s

/-- Sets an attribute of an element. -/
def setAttribute (s : Store) (n : NodeId) (name : String) (value : Value) : Store :=
  s.modifyAttributes n fun as => as.set (some n) name value.attributeText

/-- Sets several attributes of an element in turn. -/
def setAttributes (s : Store) (n : NodeId) (pairs : List (String × Value)) : Store :=
  pairs.foldl (fun s p => s.setAttribute n p.1 p.2) s

/-- Takes out the attribute that a name reads: the attribute, now without owner, and the store. -/
def removeAttribute (s : Store) (n : NodeId) (name : String) : Option Attribute × Store :=
  match s.attributes? n with
  | some as => ((as.remove name).2, s.modifyAttributes n fun _ => (as.remove name).1)
  | none => (none, s)

/-- How messages describe a node. -/
def describe (s : Store) (n : NodeId) : String :=
  match s.body? n with
  | none | some .plain => "<Node #node>"
  | some (.text data) => "<Text " ++ Text.quote data ++ ">"
  | some (.comment data) => "<Comment " ++ Text.quote data ++ ">"
  | some (.rawData data) =>
    "<RawData " ++ Text.quote (String.ofList (data.toList.take 40)) ++ ">"
  | some (.element type tag attributes) =>
    let table := Value.table (attributes.pairs.map fun p => (p.1, .text p.2))
    "<" ++ type.name ++ " " ++ tag ++ " " ++ table.literal ++ ">"

end Store

end TypedMarkup
