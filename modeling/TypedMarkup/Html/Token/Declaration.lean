import TypedMarkup.Html.Token

/-!
# Reading comments and document types

What stands between `<!` and the bracket that ends it. A comment ends at `-->` or `--!>`, or at the
first bracket if that comes at once; a document type ends at the first bracket.
-/

namespace TypedMarkup.Html

/-- What came before the next character of a comment. -/
inductive CommentPlace where
  | start
  | startDash
  | body
  | dash
  | dashes
  | bang
  deriving Repr, DecidableEq

/-- The dashes and the exclamation mark that wait for the character behind them. -/
def CommentPlace.pending : CommentPlace → List Char
  | start | body => []
  | startDash | dash => ['-']
  | dashes => ['-', '-']
  | bang => ['-', '-', '!']

/-- Reads a character of a comment: what it adds to the data, and the next place unless the comment
ends. -/
def CommentPlace.step (place : CommentPlace) (c : Char) : List Char × Option CommentPlace :=
  match place, c with
  | .start, '-' => ([], some .startDash)
  | .body, '-' => ([], some .dash)
  | .startDash, '-' | .dash, '-' => ([], some .dashes)
  | .dashes, '-' => (['-'], some .dashes)
  | .bang, '-' => (['-', '-', '!'], some .dash)
  | .dashes, '!' => ([], some .bang)
  | .start, '>' | .startDash, '>' | .dashes, '>' | .bang, '>' => ([], none)
  | place, c => (place.pending ++ [settleNull c], some .body)

/-- Reads a comment: its data and the input behind it. The end of the input ends it as well. -/
def scanComment (place : CommentPlace) : List Char → List Char × List Char
  | [] => ([], [])
  | c :: rest =>
    match place.step c with
    | (added, none) => (added, rest)
    | (added, some next) =>
      let (data, behind) := scanComment next rest
      (added ++ data, behind)

/-- The text up to the first closing bracket, whether there is one, and the input behind it. -/
def upToBracket (input : List Char) : List Char × Bool × List Char :=
  let text := input.takeWhile (· != '>')
  match input.dropWhile (· != '>') with
  | [] => (text, false, [])
  | _ :: rest => (text, true, rest)

/-- A quoted identifier at the start of the input, whether its end is marked, and what stands
behind it. -/
def identifier? (input : List Char) : Option (String × Bool × List Char) :=
  match input with
  | [] => none
  | quote :: rest =>
    if quote = '"' || quote = '\'' then
      let data := String.ofList ((rest.takeWhile (· != quote)).map settleNull)
      match rest.dropWhile (· != quote) with
      | [] => some (data, false, [])
      | _ :: behind => some (data, true, behind)
    else none

/-- Reads the system identifier of a document type. It may be left out behind a public one. -/
def readSystemId (name : String) (publicId : Option String) (input : List Char) : Doctype :=
  match identifier? (skipSpace input) with
  | some (id, ended, _) => ⟨name, publicId, some id, ended⟩
  | none => ⟨name, publicId, none, publicId.isSome && (skipSpace input).isEmpty⟩

/-- Reads the identifiers of a document type. -/
def readIds (name : String) (input : List Char) : Doctype :=
  if input.isEmpty then ⟨name, none, none, true⟩
  else if beginsWith "public" input then
    match identifier? (skipSpace (input.drop 6)) with
    | some (id, true, rest) => readSystemId name (some id) rest
    | some (id, false, _) => ⟨name, some id, none, false⟩
    | none => ⟨name, none, none, false⟩
  else if beginsWith "system" input then readSystemId name none (input.drop 6)
  else ⟨name, none, none, false⟩

/-- Reads the text of a document type behind its keyword; `ended` says whether a bracket ends it. -/
def Doctype.read (ended : Bool) (text : List Char) : Doctype :=
  let text := skipSpace text
  let name := (text.takeWhile fun c => !isSpace c).map fun c => (settleNull c).toLower
  let d := readIds (String.ofList name) (skipSpace (text.dropWhile fun c => !isSpace c))
  { d with correct := d.correct && ended && !name.isEmpty }

/-- The data of a section of raw characters in foreign markup, up to `]]>`, and the input behind
it. -/
def scanSection : List Char → List Char × List Char
  | [] => ([], [])
  | c :: rest =>
    match c, rest with
    | ']', ']' :: '>' :: behind => ([], behind)
    | c, rest =>
      let (data, behind) := scanSection rest
      (settleNull c :: data, behind)

end TypedMarkup.Html
