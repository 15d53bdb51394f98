import TypedMarkup.Store.Basic

/-!
# Moving nodes

The operations that change links: `removeChild`, `appendChild`, `insertBefore` and `addContent`.
A node that has a parent is first taken out of that parent's list. Nothing stops a node from going
below itself, and an operation that fails may already have changed the store, so each gives the
store it leaves together with the fault, if any.
-/

namespace TypedMarkup

/-- What a change of links leaves, and why it failed if it did. -/
structure Outcome where
  store : Store
  fault : Option Fault
  deriving Repr

namespace Store

/-- Takes a node out of the list of a parent, which must list it. -/
def removeChild (s : Store) (p c : NodeId) : Outcome :=
  if !s.isContainer p then ⟨s, some .noSuchMember⟩
  else if (s.children p).contains c then
    ⟨(s.setChildren p ((s.children p).erase c)).setParent c none, none⟩
  else ⟨s, some .childNotFound⟩

/-- Takes a node out of the list of the parent that it points to, if there is one. -/
def detach (s : Store) (c : NodeId) : Outcome :=
  match s.parent? c with
  | none => ⟨s, none⟩
  | some q => s.removeChild q c

/-- Puts a node behind the children of a container. -/
def appendChild (s : Store) (p c : NodeId) : Outcome :=
  if !s.isContainer p then ⟨s, some .noSuchMember⟩
  else
    match s.detach c with
    | ⟨s, some fault⟩ => ⟨s, some fault⟩
    | ⟨s, none⟩ =>
      let s := s.setParent c (some p)
      ⟨s.setChildren p (s.children p ++ [c]), none⟩

/-- The list with `c` in front of the first `r`, if `r` is there. -/
def insertInto (c r : NodeId) : List NodeId → Option (List NodeId)
  | [] => none
  | x :: xs => if x = r then some (c :: x :: xs) else (insertInto c r xs).map (x :: ·)

/-- Puts a node in front of a child of a container, or behind all children when none is named. The
place is looked up after the node has left its old parent and points to the new one: a node that is
to go in front of itself is then in no list. -/
def insertBefore (s : Store) (p c : NodeId) (reference : Option NodeId) : Outcome :=
  if !s.isContainer p then ⟨s, some .noSuchMember⟩
  else
    match reference with
    | none => s.appendChild p c
    | some r =>
      if !(s.children p).contains r then ⟨s, some .referenceNotFound⟩
      else
        match s.detach c with
        | ⟨s, some fault⟩ => ⟨s, some fault⟩
        | ⟨s, none⟩ =>
          let s := s.setParent c (some p)
          match insertInto c r (s.children p) with
          | some children => ⟨s.setChildren p children, none⟩
          | none => ⟨s, some (.notInList (s.describe r))⟩

/-- Puts nodes behind the children of a container one by one, up to the first failure. -/
def appendAll (s : Store) (p : NodeId) : List (Option NodeId) → Outcome
  | [] => ⟨s, none⟩
  | none :: rest => s.appendAll p rest
  | some c :: rest =>
    match s.appendChild p c with
    | ⟨s, some fault⟩ => ⟨s, some fault⟩
    | ⟨s, none⟩ => s.appendAll p rest

/-- Puts the nodes of a list behind the children of a container, in order; what is no node is
skipped. -/
def addContent (s : Store) (p : NodeId) (content : List (Option NodeId)) : Outcome :=
  if !s.isContainer p then ⟨s, some .noSuchMember⟩ else s.appendAll p content

end Store

end TypedMarkup
