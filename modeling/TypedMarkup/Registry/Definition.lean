import TypedMarkup.Registry.Constructor

/-!
# Definitions of semantic elements

A definition holds a constructor with what one sample of its work told: the tag, whether the
element is void, and its class.
-/

namespace TypedMarkup

/-- A semantic element as it is registered. -/
structure Definition where
  constructor : Constructor
  /-- The class by which the definition is found in reverse. -/
  elementClass : SemanticClass
  tag : String
  isVoid : Bool

namespace Definition

/-- The class, tag and voidness of a product that is a semantic container or void element. -/
def sample? : Product → Option (SemanticClass × String × Bool)
  | .node (.element (.semantic c) tag _ _) =>
    match c.form with
    | .container => some (c, tag, false)
    | .void => some (c, tag, true)
    | .bare => none
  | _ => none

/-- Makes a definition from one call to its constructor. The class is the one named, or else that
of the sample. -/
def make (constructor : Constructor) (named : Option SemanticClass) (calls : Calls) :
    Except Fault Definition × Calls :=
  let (result, calls) := constructor.call calls
  let definition := do
    let product ← result
    match sample? product with
    | some (c, tag, isVoid) => .ok ⟨constructor, named.getD c, tag, isVoid⟩
    | none => .error (.notSemantic constructor.label product.typeName)
  (definition, calls)

/-- The definition in messages. -/
def describe (d : Definition) : String :=
  "ElementDefinition(" ++ Text.quote d.tag ++ ", " ++ d.elementClass.name ++ ", " ++
    (if d.isVoid then "void" else "container") ++ ")"

end Definition

end TypedMarkup
