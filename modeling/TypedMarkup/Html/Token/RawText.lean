import TypedMarkup.Html.Token

/-!
# Reading raw text

The text of elements such as `style` and `script`, where tags are text too. It goes up to the end
tag of the element. In a script that end does not count inside `<!--` and a second `<script`; a
`ScriptPlace` keeps track of both.
-/

namespace TypedMarkup.Html

/-- Whether the end tag of this element begins here. -/
def endsElement (name : String) (input : List Char) : Bool :=
  match input with
  | '<' :: '/' :: rest =>
    beginsWith name rest &&
      (match rest.drop name.length with
        | [] => false
        | c :: _ => isSpace c || c == '/' || c == '>')
  | _ => false

/-- The raw text of an element and the input from its end tag on. -/
def scanRaw (name : String) : List Char → List Char × List Char
  | [] => ([], [])
  | c :: rest =>
    if endsElement name (c :: rest) then ([], c :: rest)
    else
      let (text, behind) := scanRaw name rest
      (settleNull c :: text, behind)

/-- Where in a script the next character stands: outside of any comment, in one, or in a script
inside a comment. `word` gathers the letters behind a bracket, last first. -/
inductive ScriptPlace where
  | plain
  | plainLess
  | opening
  | openingDash
  | comment
  | commentDash
  | commentDashes
  | commentLess
  | commentWord (word : List Char)
  | nested
  | nestedDash
  | nestedDashes
  | nestedLess
  | nestedWord (word : List Char)
  deriving Repr, DecidableEq

namespace ScriptPlace

/-- Whether an end tag counts here. -/
def mayEnd : ScriptPlace → Bool
  | nested | nestedDash | nestedDashes | nestedLess | nestedWord _ => false
  | _ => true

/-- Reads a character outside of any comment. -/
def stepPlain (c : Char) : ScriptPlace :=
  if c = '<' then plainLess else plain

/-- Reads a character in a comment; `dashes` is the place behind a dash. -/
def stepComment (dashes : ScriptPlace) (c : Char) : ScriptPlace :=
  if c = '-' then dashes else if c = '<' then commentLess else comment

/-- Reads a character in a script inside a comment; `dashes` is the place behind a dash. -/
def stepNested (dashes : ScriptPlace) (c : Char) : ScriptPlace :=
  if c = '-' then dashes else if c = '<' then nestedLess else nested

/-- Whether the letters behind a bracket, last first, name a script. -/
def isScript (word : List Char) : Bool :=
  word.reverse.map Char.toLower == "script".toList

/-- Whether the character ends the name in a tag. -/
def endsName (c : Char) : Bool :=
  isSpace c || c == '/' || c == '>'

/-- The place behind a character of a script. -/
def step (place : ScriptPlace) (c : Char) : ScriptPlace :=
  match place with
  | plain => stepPlain c
  | plainLess => if c = '!' then opening else stepPlain c
  | opening => if c = '-' then openingDash else stepPlain c
  | openingDash => if c = '-' then commentDashes else stepPlain c
  | comment => stepComment commentDash c
  | commentDash => stepComment commentDashes c
  | commentDashes => if c = '>' then plain else stepComment commentDashes c
  | commentLess => if c.isAlpha then commentWord [c] else stepComment commentDash c
  | commentWord word =>
    if endsName c then if isScript word then nested else comment
    else if c.isAlpha then commentWord (c :: word)
    else stepComment commentDash c
  | nested => stepNested nestedDash c
  | nestedDash => stepNested nestedDashes c
  | nestedDashes => if c = '>' then plain else stepNested nestedDashes c
  | nestedLess => if c = '/' then nestedWord [] else stepNested nestedDash c
  | nestedWord word =>
    if endsName c then if isScript word then comment else nested
    else if c.isAlpha then nestedWord (c :: word)
    else stepNested nestedDash c

end ScriptPlace

/-- The text of a script and the input from its end tag on. -/
def scanScript (place : ScriptPlace) : List Char → List Char × List Char
  | [] => ([], [])
  | c :: rest =>
    if place.mayEnd && endsElement "script" (c :: rest) then ([], c :: rest)
    else
      let (text, behind) := scanScript (place.step c) rest
      (settleNull c :: text, behind)

end TypedMarkup.Html
