import TypedMarkup.Store.Links

/-!
# Walking the store

What a store says of the nodes below a node. A walk goes no deeper than the number of nodes in the
store, which no path without a cycle exceeds. `tree?` reads off the output tree below a node.
-/

namespace TypedMarkup.Store

/-- The nodes below a node down to a depth, in document order. -/
def descendantsTo (s : Store) : (depth : Nat) → NodeId → List NodeId
  | 0, _ => []
  | depth + 1, n => (s.children n).flatMap fun c => c :: s.descendantsTo depth c

/-- The nodes below a node, in document order. -/
def descendants (s : Store) (n : NodeId) : List NodeId :=
  s.descendantsTo s.size n

/-- The elements among the children of a node. -/
def childElements (s : Store) (n : NodeId) : List NodeId :=
  (s.children n).filter s.isElement

/-- Whether an element has the tag `tag`, which is in small letters. -/
def hasTag (s : Store) (tag : String) (n : NodeId) : Bool :=
  match s.body? n with
  | some (.element _ t _) => t == tag
  | _ => false

/-- The elements below a node with a tag, in any case, or all of them for `*`. -/
def elementsByTag (s : Store) (n : NodeId) (tag : String) : List NodeId :=
  (s.descendants n).filter fun d => s.isElement d && (tag == "*" || s.hasTag (Text.lower tag) d)

/-- The text of a node and of what is below it down to a depth. -/
def textTo (s : Store) : (depth : Nat) → NodeId → String
  | 0, n =>
    match s.body? n with
    | some (.text data) => data
    | _ => ""
  | depth + 1, n =>
    match s.body? n with
    | some (.text data) => data
    | _ =>
      let parts := (s.children n).map fun c => s.textTo depth c
      Text.join " " (parts.filter fun part => !part.isEmpty)

/-- The text of a node: its data, or the texts of its children that have any, with single spaces
between. -/
def textContent (s : Store) (n : NodeId) : String :=
  s.textTo s.size n

/-- The output tree of a node down to a depth; plain nodes have none. -/
def treeTo (s : Store) : (depth : Nat) → NodeId → Option Tree
  | depth, n =>
    match s.body? n with
    | none | some .plain => none
    | some (.text data) => some (.text data)
    | some (.comment data) => some (.comment data)
    | some (.rawData data) => some (.rawData data)
    | some (.element type tag attributes) =>
      let below :=
        match depth with
        | 0 => []
        | depth + 1 => (s.children n).filterMap fun c => s.treeTo depth c
      some (.element type tag attributes.pairs below)

/-- The output tree of a node, without the plain nodes below it. -/
def tree? (s : Store) (n : NodeId) : Option Tree :=
  s.treeTo s.size n

/-- Whether a node is plain. -/
def isPlain (s : Store) (n : NodeId) : Bool :=
  match s.body? n with
  | some .plain => true
  | _ => false

/-- The output tree of a node, which must have a kind as all nodes below it must. -/
def concreteTree (s : Store) (n : NodeId) : Except Fault Tree :=
  if (n :: s.descendants n).any s.isPlain then .error .noSuchMember
  else
    match s.tree? n with
    | some t => if t.isConcrete then .ok t else .error .noSuchMember
    | none => .error .noSuchMember

/-- The name of the type of a node. -/
def typeName (s : Store) (n : NodeId) : String :=
  match s.body? n with
  | none | some .plain => "Node"
  | some (.text _) => "Text"
  | some (.comment _) => "Comment"
  | some (.rawData _) => "RawData"
  | some (.element type ..) => type.name

/-- The name of a node: the tag of an element in capitals, else a word for what it is. -/
def nodeName (s : Store) (n : NodeId) : String :=
  match s.body? n with
  | none | some .plain => "#node"
  | some (.text _) => "#text"
  | some (.comment _) => "#comment"
  | some (.rawData _) => "#data"
  | some (.element _ tag _) => Text.upper tag

/-- Whether a node is an instance of the declared class with this name. -/
def isInstance (s : Store) (name : String) (n : NodeId) : Bool :=
  match s.body? n with
  | some (.element (.semantic c) ..) => c.isA name
  | _ => false

/-- The kind of a node. -/
def kind? (s : Store) (n : NodeId) : Option NodeKind :=
  match s.body? n with
  | none | some .plain => none
  | some (.text _) => some .text
  | some (.comment _) => some .comment
  | some (.rawData _) => some .rawData
  | some (.element type ..) => type.kind?

/-- The layout of a node; texts have none. -/
def display? (s : Store) (n : NodeId) : Option Layout :=
  match s.body? n with
  | none | some .plain | some (.text _) => none
  | some (.comment _) | some (.rawData _) => some .block
  | some (.element type ..) => some type.display

/-- The number of the sort of a node in the HTML document model. -/
def nodeType? (s : Store) (n : NodeId) : Option Nat :=
  match s.body? n with
  | none | some .plain => none
  | some (.element ..) => some 1
  | some (.text _) => some 3
  | some (.rawData _) => some 4
  | some (.comment _) => some 8

/-- The tag of an element. -/
def tag? (s : Store) (n : NodeId) : Option String :=
  match s.body? n with
  | some (.element _ tag _) => some tag
  | _ => none

/-- The data of a text, comment or raw data node. -/
def data? (s : Store) (n : NodeId) : Option String :=
  match s.body? n with
  | some (.text data) | some (.comment data) | some (.rawData data) => some data
  | _ => none

end TypedMarkup.Store
