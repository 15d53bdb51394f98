import TypedMarkup.Registry.Definition

/-!
# The registry

Definitions under their tags in small letters, in the order in which the tags were first added. A
later definition for a tag replaces the earlier one in place. `add` stores a definition, `register`
makes it first; `lookup?` finds a definition by tag in any case, `tagForClass` a tag by class.
-/

namespace TypedMarkup

/-- The definitions by tag in small letters. -/
abbrev Registry := Entries Definition

/-- A definition took the place of another. -/
structure Replacement where
  key : String
  old : Definition
  new : Definition

/-- The message on a replacement. -/
def Replacement.message (r : Replacement) : String :=
  "Replacing definition for <" ++ r.key ++ ">: " ++ r.old.describe ++ " -> " ++ r.new.describe

namespace Registry

/-- The registry without definitions. -/
def empty : Registry :=
  []

/-- Stores a definition under its tag; reports the definition that it replaces. -/
def add (d : Definition) (registry : Registry) : Registry × Option Replacement :=
  let key := Text.lower d.tag
  (Entries.put key d registry, (Entries.find? key registry).map fun old => ⟨key, old, d⟩)

/-- What a registration leaves: the definition or why there is none, the registry, the factories
called, and the replacement that took place. -/
structure Registered where
  result : Except Fault Definition
  registry : Registry
  calls : Calls
  replaced : Option Replacement

/-- Registers a constructor: makes a definition with one call to it, and stores the definition. -/
def register (constructor : Constructor) (named : Option SemanticClass) (calls : Calls)
    (registry : Registry) : Registered :=
  match Definition.make constructor named calls with
  | (.ok d, calls) =>
    let (registry, replaced) := registry.add d
    ⟨.ok d, registry, calls, replaced⟩
  | (.error fault, calls) => ⟨.error fault, registry, calls, none⟩

/-- Stores definitions in turn. -/
def ofDefinitions (ds : List Definition) : Registry :=
  ds.foldl (fun registry d => (registry.add d).1) empty

/-- The definition for a tag, in any case. -/
def lookup? (tag : String) (registry : Registry) : Option Definition :=
  if tag.isEmpty then none else Entries.find? (Text.lower tag) registry

/-- Whether a value is a tag with a definition. -/
def contains (registry : Registry) : Value → Bool
  | .text tag => Entries.has (Text.lower tag) registry
  | _ => false

/-- The tag of the first definition that is found by this class. -/
def tagForClass (c : SemanticClass) (registry : Registry) : Except Fault String :=
  match List.find? (fun entry => entry.2.elementClass.name == c.name) registry with
  | some entry => .ok entry.2.tag
  | none => .error (.unregistered c.name)

/-- The tags, in order. -/
def tagNames (registry : Registry) : List String :=
  Entries.names registry

/-- The definitions, in order. -/
def definitions (registry : Registry) : List Definition :=
  registry.map Prod.snd

/-- The registry in messages. -/
def describe (registry : Registry) : String :=
  "SemanticElementRegistry(" ++ (Value.list (registry.tagNames.map .text)).literal ++ ")"

end Registry

end TypedMarkup
