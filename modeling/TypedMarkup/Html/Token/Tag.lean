import TypedMarkup.Html.CharRef
import TypedMarkup.Html.Token

/-!
# Reading tags

A tag is read a character at a time. A `TagDraft` holds what was read and `TagDraft.Place` what the
next character belongs to; `Tag.scan?` runs it to the closing bracket. A tag that the input ends in
is none.
-/

namespace TypedMarkup.Html

/-- What the next character of a tag belongs to. -/
inductive TagDraft.Place where
  | tagName
  | betweenAttributes
  | attributeName
  | afterName
  | beforeValue
  | quoted (quote : Char)
  | unquoted
  | slash
  deriving Repr, DecidableEq

/-- A tag that was read in part. Texts are kept last character first, attributes last one first,
each with its value. -/
structure TagDraft where
  place : TagDraft.Place
  name : List Char
  attributes : List (List Char × List Char)

namespace TagDraft

/-- A tag of which nothing was read. -/
def empty : TagDraft :=
  ⟨.tagName, [], []⟩

/-- Begins an attribute with this character. -/
def begin (t : TagDraft) (c : Char) : TagDraft :=
  { t with place := .attributeName, attributes := ([settleNull c], []) :: t.attributes }

/-- Adds a character to the name of the last attribute. -/
def extendName (t : TagDraft) (c : Char) : TagDraft :=
  match t.attributes with
  | (name, value) :: rest => { t with attributes := (settleNull c :: name, value) :: rest }
  | [] => t

/-- Adds a character to the value of the last attribute. -/
def extendValue (t : TagDraft) (c : Char) : TagDraft :=
  match t.attributes with
  | (name, value) :: rest => { t with attributes := (name, settleNull c :: value) :: rest }
  | [] => t

/-- Reads a character that stands where an attribute may begin. -/
def stepBetween (t : TagDraft) (c : Char) : TagDraft :=
  if isSpace c then { t with place := .betweenAttributes }
  else if c = '/' then { t with place := .slash }
  else t.begin c

/-- Reads a character of a tag other than the closing bracket. -/
def step (t : TagDraft) (c : Char) : TagDraft :=
  match t.place with
  | .tagName =>
    if isSpace c || c = '/' then t.stepBetween c else { t with name := settleNull c :: t.name }
  | .betweenAttributes | .slash => t.stepBetween c
  | .attributeName =>
    if isSpace c then { t with place := .afterName }
    else if c = '=' then { t with place := .beforeValue }
    else if c = '/' then { t with place := .slash }
    else t.extendName c
  | .afterName =>
    if isSpace c then t
    else if c = '=' then { t with place := .beforeValue }
    else t.stepBetween c
  | .beforeValue =>
    if isSpace c then t
    else if c = '"' || c = '\'' then { t with place := .quoted c }
    else { t.extendValue c with place := .unquoted }
  | .quoted quote =>
    if c = quote then { t with place := .betweenAttributes } else t.extendValue c
  | .unquoted =>
    if isSpace c then { t with place := .betweenAttributes } else t.extendValue c

/-- Whether a closing bracket ends the tag here. -/
def mayEnd (t : TagDraft) : Bool :=
  match t.place with
  | .quoted _ => false
  | _ => true

/-- A text in small letters of the ASCII range, from its characters last first. -/
def smallText (read : List Char) : String :=
  String.ofList (read.reverse.map Char.toLower)

/-- The attributes in order; of several with one name the first counts. -/
def entries (t : TagDraft) : Entries String :=
  t.attributes.reverse.foldl (fun entries (name, value) =>
    let name := smallText name
    if entries.has name then entries
    else entries ++ [(name, String.ofList (CharRef.decode .inValue value.reverse))]) []

/-- The tag, when its closing bracket comes here. -/
def finish (t : TagDraft) : Tag :=
  ⟨smallText t.name, t.entries, t.place = .slash⟩

/-- Reads the rest of a tag: the tag and the input behind it. -/
def scan? (t : TagDraft) : List Char → Option (Tag × List Char)
  | [] => none
  | c :: rest => if c = '>' && t.mayEnd then some (t.finish, rest) else (t.step c).scan? rest

end TagDraft

/-- Reads a tag from its name on: the tag and the input behind it. -/
def Tag.scan? (input : List Char) : Option (Tag × List Char) :=
  TagDraft.empty.scan? input

end TypedMarkup.Html
