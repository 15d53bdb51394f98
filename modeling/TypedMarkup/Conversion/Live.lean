import TypedMarkup.Conversion.Basic
import TypedMarkup.Store.Walk

/-!
# Conversion into a store

The same conversion with live nodes, in a store that may hold others. Each output node is made as a
new node, its attributes are set on it one by one, and the nodes in it are put behind its children
as soon as each is done, by the operations of the store. `Converter.liveNode` converts any node,
`Converter.liveElement` an element, and `Converter.liveAllOfClass` the elements of a document that
belong to a registered class; a conversion that fails leaves the nodes made so far.
-/

namespace TypedMarkup

/-- What a live conversion works on. -/
structure Workshop where
  store : Store
  session : Session
  deriving Repr

/-- A conversion that makes live nodes. -/
abbrev LiveConversion (α : Type) := ExceptT Fault (StateM Workshop) α

namespace LiveConversion

/-- Runs a conversion: its result, and what it leaves. -/
def exec {α : Type} (c : LiveConversion α) (w : Workshop) : Except Fault α × Workshop :=
  (ExceptT.run c).run w

/-- A conversion that makes no live nodes. -/
def ofConversion {α : Type} (c : Conversion α) : LiveConversion α := do
  let w ← get
  let (result, session) := c.exec w.session
  set { w with session := session }
  match result with
  | .ok a => pure a
  | .error fault => throw fault

/-- An operation of the store, which may fail. -/
def perform (operation : Store → Outcome) : LiveConversion Unit := do
  let w ← get
  let outcome := operation w.store
  set { w with store := outcome.store }
  match outcome.fault with
  | none => pure ()
  | some fault => throw fault

/-- A new node with this body. -/
def create (body : Body) : LiveConversion NodeId := do
  let w ← get
  let (n, store) := w.store.create body
  set { w with store := store }
  pure n

end LiveConversion

namespace Converter

open LiveConversion

/-- Sets an attribute of a node, which must be an element. -/
def setLive (n : NodeId) (name text : String) : LiveConversion Unit :=
  perform fun s =>
    if s.isElement n then ⟨s.setAttribute n name (.text text), none⟩ else ⟨s, some .noSuchMember⟩

/-- Sets attributes of a node in turn. -/
def copyLive (n : NodeId) : List (String × Value) → LiveConversion Unit
  | [] => pure ()
  | (name, value) :: rest =>
    match attributeText value with
    | .error fault => throw fault
    | .ok text => do
      setLive n name text
      copyLive n rest

mutual

/-- New nodes for a tree, with their attributes; gives the root. -/
def plant : Tree → LiveConversion NodeId
  | .text data => create (.text data)
  | .comment data => create (.comment data)
  | .rawData data => create (.rawData data)
  | .element type tag attributes cs => do
    let n ← create (.element type tag [])
    copyLive n (attributes.map fun a => (a.1, .text a.2))
    plantIn n cs
    pure n

/-- Puts new nodes for trees behind the children of `p`, one after the other. -/
def plantIn (p : NodeId) : List Tree → LiveConversion Unit
  | [] => pure ()
  | t :: ts => do
    let c ← plant t
    perform fun s => s.appendChild p c
    plantIn p ts

end

/-- The live node for what a conversion gives, if anything. -/
def plantGiven (given : Conversion (Option Tree)) : LiveConversion (Option NodeId) := do
  match ← ofConversion given with
  | some tree => do
    let n ← plant tree
    pure (some n)
  | none => pure none

mutual

/-- The live output of a node in an element named `parent`, or in none. -/
def liveNode (cv : Converter) (parent : Option String) :
    Markup.Node → LiveConversion (Option NodeId)
  | .absent => pure none
  | .foreign typeName => do
    ofConversion (cv.report typeName)
    pure none
  | .string sort data => plantGiven (cv.string parent sort data)
  | .element name attributes cs => do
    match ← ofConversion (cv.build (Text.lower name)) with
    | .node tree => do
      let n ← plant tree
      copyLive n attributes
      if (← get).store.isContainer n then cv.liveNodes name n cs
      pure (some n)
    | .value .null => plantGiven (leaf attributes (.ok none))
    | .value _ => plantGiven (leaf attributes (.error .noSuchMember))

/-- Puts the live outputs of the nodes in an element named `name` behind the children of `p`, each
as soon as it is done. -/
def liveNodes (cv : Converter) (name : String) (p : NodeId) : List Markup.Node → LiveConversion Unit
  | [] => pure ()
  | n :: ns => do
    match ← cv.liveNode (some name) n with
    | some c => perform fun s => s.appendChild p c
    | none => pure ()
    cv.liveNodes name p ns

end

/-- The live output of an element; where there is no node there is no output. -/
def liveElement (cv : Converter) : Markup.Node → LiveConversion (Option NodeId)
  | .element name attributes cs => cv.liveNode none (.element name attributes cs)
  | .absent => pure none
  | .string .. | .foreign _ => throw .noSuchMember

/-- The live outputs of the elements that are instances of a class, in order. -/
def liveInstances (cv : Converter) (c : SemanticClass) :
    List Markup.Node → LiveConversion (List NodeId)
  | [] => pure []
  | n :: ns => do
    let root ← cv.liveElement n
    let store := (← get).store
    let roots ← cv.liveInstances c ns
    pure (root.toList.filter (store.isInstance c.name) ++ roots)

/-- Converts every element of a document with the tag registered for a class, and keeps the roots
of those that are instances of the class, in document order. -/
def liveAllOfClass (cv : Converter) (document : Markup.Document) (c : SemanticClass) :
    LiveConversion (List NodeId) :=
  match cv.registry.tagForClass c with
  | .error fault => throw fault
  | .ok tag => cv.liveInstances c (document.findAll tag)

end Converter

end TypedMarkup
