import TypedMarkup.Json.Token
import TypedMarkup.Value

/-!
# Reading JSON

The value that a text writes. `State.step` reads one token: it keeps the lists and tables that are
open, innermost first, and what may come next. In a table a repeated name keeps its first place and
takes its last value.
-/

namespace TypedMarkup.Json

/-- A list or table that is not closed yet; the items of a list are kept last first. -/
inductive Frame where
  | list (items : List Value)
  | table (entries : Entries Value)
  | entry (entries : Entries Value) (name : String)
  deriving Repr

/-- What may come next. -/
inductive Expects where
  | value
  | valueOrEnd
  | nameOrEnd
  | name
  | colon
  | commaOrEnd
  | nothing
  deriving Repr, DecidableEq

/-- How far reading has come. -/
structure State where
  frames : List Frame
  expects : Expects
  result : Option Value
  deriving Repr

/-- Before the first token. -/
def State.initial : State :=
  ⟨[], .value, none⟩

/-- Puts a finished value where it belongs. -/
def State.finish (frames : List Frame) (v : Value) : Option State :=
  match frames with
  | [] => some ⟨[], .nothing, some v⟩
  | .list items :: rest => some ⟨.list (v :: items) :: rest, .commaOrEnd, none⟩
  | .entry entries name :: rest => some ⟨.table (entries.put name v) :: rest, .commaOrEnd, none⟩
  | .table _ :: _ => none

/-- Reads a token where a value is due. -/
def State.value (frames : List Frame) : Token → Option State
  | .null => finish frames .null
  | .bool b => finish frames (.bool b)
  | .int n => finish frames (.int n)
  | .double x => finish frames (.double x)
  | .text s => finish frames (.text s)
  | .beginList => some ⟨.list [] :: frames, .valueOrEnd, none⟩
  | .beginTable => some ⟨.table [] :: frames, .nameOrEnd, none⟩
  | _ => none

/-- Closes the innermost list or table. -/
def State.close (frames : List Frame) (token : Token) : Option State :=
  match frames, token with
  | .list items :: rest, .endList => finish rest (.list items.reverse)
  | .table entries :: rest, .endTable => finish rest (.table entries)
  | _, _ => none

/-- Reads one token. -/
def State.step (s : State) (token : Token) : Option State :=
  match s.expects, token with
  | .value, t => State.value s.frames t
  | .valueOrEnd, .endList => State.close s.frames .endList
  | .valueOrEnd, t => State.value s.frames t
  | .nameOrEnd, .endTable => State.close s.frames .endTable
  | .nameOrEnd, .text name | .name, .text name =>
    match s.frames with
    | .table entries :: rest => some ⟨.entry entries name :: rest, .colon, none⟩
    | _ => none
  | .colon, .colon => some ⟨s.frames, .value, none⟩
  | .commaOrEnd, .comma =>
    match s.frames with
    | .list _ :: _ => some ⟨s.frames, .value, none⟩
    | .table _ :: _ => some ⟨s.frames, .name, none⟩
    | _ => none
  | .commaOrEnd, t => State.close s.frames t
  | _, _ => none

/-- The value that a text writes, or `none` if it is not well formed. -/
def parse? (s : String) : Option Value := do
  let tokens ← tokens? s
  let last ← tokens.foldlM State.step State.initial
  last.result

end TypedMarkup.Json
