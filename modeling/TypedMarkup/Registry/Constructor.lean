import TypedMarkup.Fault
import TypedMarkup.Semantic.Tree

/-!
# Constructors of semantic elements

What a caller registers: an element class, or a factory that may give something else on each call.
The calls to factories are recorded in a history, and the n-th call to a factory is told from the
others by the calls before it.
-/

namespace TypedMarkup

/-- What a constructor gives: a new node without parent, or any other value. -/
inductive Product where
  | node (tree : Tree)
  | value (v : Value)
  deriving Repr

/-- The name of the type of a product in messages. -/
def Product.typeName : Product → String
  | node tree => tree.typeName
  | value v => v.kindName

/-- The attributes that every new instance of the class starts with. -/
def SemanticClass.attributes (c : SemanticClass) : List (String × String) :=
  Entries.ofList (c.presets.map fun p => (p.1, p.2.attributeText))

/-- A new instance of the class, which must declare a tag. -/
def SemanticClass.instantiate (c : SemanticClass) : Except Fault Tree :=
  if c.tag.isEmpty then .error (.noTag c.name)
  else .ok (.element (.semantic c) (Text.lower c.tag) c.attributes [])

/-- A function without arguments that makes nodes, told apart by its number. -/
structure Factory where
  number : Nat
  /-- The name of the factory in messages. -/
  label : String
  /-- What the n-th call gives, counted from zero. -/
  product : Nat → Except Fault Product

/-- What can be registered to construct elements. -/
inductive Constructor where
  | ofClass (c : SemanticClass)
  | ofFactory (f : Factory)

/-- The factories called so far, last call first. -/
abbrev Calls := List Nat

/-- The name of a constructor in messages. -/
def Constructor.label : Constructor → String
  | ofClass c => c.name
  | ofFactory f => f.label

/-- Calls a constructor: what it gives, and the history with this call. -/
def Constructor.call (constructor : Constructor) (calls : Calls) : Except Fault Product × Calls :=
  match constructor with
  | ofClass c => (c.instantiate.map .node, calls)
  | ofFactory f => (f.product (calls.count f.number), f.number :: calls)

end TypedMarkup
