import TypedMarkup.Html.Token.Declaration
import TypedMarkup.Html.Token.RawText
import TypedMarkup.Html.Token.Tag

/-!
# The next token

Which token comes next hangs on the element that the input stands in: a `ContentModel` says what
its characters are taken for. `Token.next` reads one token; some input, such as a tag that is cut
off, gives none.
-/

namespace TypedMarkup.Html

/-- What the characters of an element are taken for. Raw text and text with references end at the
end tag of the element named. -/
inductive ContentModel where
  | markup
  | references (name : String)
  | raw (name : String)
  | script
  | plain
  deriving Repr, DecidableEq

namespace Token

/-- A text token, unless it is empty. -/
def text? (data : List Char) : Option Token :=
  if data.isEmpty then none else some (.text (String.ofList data))

/-- The token for characters that a reference stands for. -/
def ofMeaning (data : List Char) : Token :=
  if data.length = 1 && data.all isSpace then .spaces (String.ofList data)
  else .text (String.ofList data)

/-- A comment that was not written as one: what stands up to the next closing bracket. -/
def bogusComment (input : List Char) : Option Token × List Char :=
  let (data, _, rest) := upToBracket input
  (some (.comment (String.ofList (data.map settleNull))), rest)

/-- Reads an end tag from its name on. -/
def endTag? (input : List Char) : Option Token × List Char :=
  match Tag.scan? input with
  | some (tag, rest) => (some (.endTag tag.name), rest)
  | none => (none, [])

/-- Reads what stands behind `</`. -/
def closing (input : List Char) : Option Token × List Char :=
  match input with
  | [] => (some (.text "</"), [])
  | '>' :: rest => (none, rest)
  | c :: _ => if c.isAlpha then endTag? input else bogusComment input

/-- Reads what stands behind `<!`. Sections of raw characters are known in foreign elements only. -/
def declaration (inForeign : Bool) (input : List Char) : Option Token × List Char :=
  if beginsWith "--" input then
    let (data, rest) := scanComment .start (input.drop 2)
    (some (.comment (String.ofList data)), rest)
  else if beginsWith "doctype" input then
    let (data, ended, rest) := upToBracket (input.drop 7)
    (some (.doctype (Doctype.read ended data)), rest)
  else if inForeign && "[CDATA[".toList.isPrefixOf input then
    let (data, rest) := scanSection (input.drop 7)
    (text? data, rest)
  else bogusComment input

/-- Reads what stands behind `<`. -/
def tagOrText (inForeign : Bool) (input : List Char) : Option Token × List Char :=
  match input with
  | [] => (some (.text "<"), [])
  | '!' :: rest => declaration inForeign rest
  | '/' :: rest => closing rest
  | '?' :: _ => bogusComment input
  | '>' :: rest => (some (.text "<>"), rest)
  | c :: _ =>
    if c.isAlpha then
      match Tag.scan? input with
      | some (tag, rest) => (some (.startTag tag), rest)
      | none => (none, [])
    else (some (.text "<"), input)

/-- Reads characters up to a bracket, an ampersand or a null; `c` comes first. -/
def characters (c : Char) (rest : List Char) : Option Token × List Char :=
  if isSpace c then
    (some (.spaces (String.ofList (c :: rest.takeWhile isSpace))), rest.dropWhile isSpace)
  else
    let plain := fun d => d != '&' && d != '<' && d != '\x00'
    (some (.text (String.ofList (c :: rest.takeWhile plain))), rest.dropWhile plain)

/-- Reads a reference behind its ampersand. -/
def reference (input : List Char) : Option Token × List Char :=
  let (meaning, count) := CharRef.read .inText input
  (some (ofMeaning meaning), input.drop count)

/-- Reads the next token in an element with this content model: the token, if there is one, and
the input behind it. -/
def next (model : ContentModel) (inForeign : Bool) (input : List Char) :
    Option Token × List Char :=
  match input with
  | [] => (none, [])
  | c :: rest =>
    match model with
    | .markup =>
      match c with
      | '<' => tagOrText inForeign rest
      | '&' => reference rest
      | '\x00' => (some (.text "\x00"), rest)
      | c => characters c rest
    | .references name =>
      match c with
      | '<' => if endsElement name input then endTag? (rest.drop 1) else (some (.text "<"), rest)
      | '&' => reference rest
      | '\x00' => (some (.text (String.ofList [settleNull c])), rest)
      | c => characters c rest
    | .raw name =>
      if endsElement name input then endTag? (rest.drop 1)
      else
        let (data, behind) := scanRaw name input
        (text? data, behind)
    | .script =>
      if endsElement "script" input then endTag? (rest.drop 1)
      else
        let (data, behind) := scanScript .plain input
        (text? data, behind)
    | .plain => (text? (input.map settleNull), [])

end Token

/-- Markup with each kind of line end as a line feed. -/
def settleLines : List Char → List Char
  | [] => []
  | c :: rest =>
    if c = '\r' then
      match rest with
      | '\n' :: rest => '\n' :: settleLines rest
      | rest => '\n' :: settleLines rest
    else c :: settleLines rest

end TypedMarkup.Html
