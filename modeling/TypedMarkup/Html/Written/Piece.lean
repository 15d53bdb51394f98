import TypedMarkup.Fault
import TypedMarkup.Html.CharRef
import TypedMarkup.Html.Token
import TypedMarkup.Markup.Node
import TypedMarkup.Text.Case

/-!
# Pieces of markup

Markup taken as it is written: text, tags and strings of other sorts follow each other, and no rule
of the vocabulary adds or moves any. `pieces` takes a text apart. A tag that the input ends in is
left out, as is the text of a script or a style that nothing ends.
-/

namespace TypedMarkup.Html.Written

/-- A piece of markup. -/
inductive Piece where
  | text (data : String)
  | opening (name : String) (attributes : Entries String) (closed : Bool)
  | closing (name : String)
  | string (sort : Markup.StringSort) (data : String)
  deriving Repr

/-! ## Search -/

/-- The input behind a text that it begins with. -/
def behind? (text : String) (input : List Char) : Option (List Char) :=
  if text.toList.isPrefixOf input then some (input.drop text.length) else none

/-- The input behind a text in letters of either case that it begins with. -/
def behindAnyCase? (text : String) (input : List Char) : Option (List Char) :=
  if beginsWith text input then some (input.drop text.length) else none

/-- The input behind any blanks. -/
def skipBlanks (input : List Char) : List Char :=
  input.dropWhile Text.isBlank

/-- What stands in front of the first end mark, and the input behind that mark. -/
def upTo? (mark : List Char → Option (List Char)) : List Char → Option (List Char × List Char)
  | [] => none
  | c :: rest =>
    match mark (c :: rest) with
    | some behind => some ([], behind)
    | none => (upTo? mark rest).map fun found => (c :: found.1, found.2)

/-- The end mark of most declarations. -/
def bracket (input : List Char) : Option (List Char) :=
  behind? ">" input

/-- The end mark of a comment. -/
def commentEnd (input : List Char) : Option (List Char) :=
  (behind? "--" input).bind fun rest => bracket (skipBlanks rest)

/-- The end mark of a conditional section. -/
def conditionEnd (input : List Char) : Option (List Char) :=
  (behind? "]" input).bind fun rest => bracket (skipBlanks rest)

/-- The end mark of a marked section. -/
def sectionEnd (input : List Char) : Option (List Char) :=
  (behind? "]" input).bind fun rest => conditionEnd (skipBlanks rest)

/-- The end tag of an element that holds raw text. -/
def rawEnd (name : String) (input : List Char) : Option (List Char) :=
  (behind? "</" input).bind fun rest =>
    (behindAnyCase? name (skipBlanks rest)).bind fun rest => bracket (skipBlanks rest)

/-! ## Tags -/

/-- Whether the character can stand in the name of a tag. -/
def isNameChar (c : Char) : Bool :=
  !(c == ' ' || c == '\t' || c == '\n' || c == '\r' || c == '\x0c' || c == '/' || c == '>' ||
    c == '\x00')

/-- Whether the character is a quote. -/
def isQuote (c : Char) : Bool :=
  c == '"' || c == '\''

/-- The input behind blanks and slashes; a slash that closes the tag stays. -/
def skipGaps : List Char → List Char
  | [] => []
  | c :: rest =>
    if Text.isBlank c || (c = '/' && rest.head? != some '>') then skipGaps rest else c :: rest

/-- Whether the character can go on in a value without quotes. -/
def isBare (c : Char) : Bool :=
  c != '>' && !Text.isBlank c

/-- Reads the value of an attribute, from behind its name: the value and the input behind it. A
quote that nothing closes does not begin one. -/
def value? (input : List Char) : Option (List Char × List Char) :=
  let marked := skipBlanks input
  let marks := marked.takeWhile (· == '=')
  let behindMarks := marked.dropWhile (· == '=')
  let start := skipBlanks behindMarks
  if marks.isEmpty then none
  else
    match start with
    | [] => some ([], [])
    | c :: rest =>
      if !isQuote c then some (start.takeWhile isBare, start.dropWhile isBare)
      else if rest.contains c then
        some (rest.takeWhile (· != c), (rest.dropWhile (· != c)).tail)
      else if start.length < behindMarks.length then some ([], behindMarks)
      else if 1 < marks.length then some ('=' :: start.takeWhile isBare, start.dropWhile isBare)
      else none

/-- Whether an attribute may begin behind this text: behind a quote, a slash or a blank. -/
def mayBegin (read : List Char) : Bool :=
  match read.getLast? with
  | some c => isQuote c || c == '/' || Text.isBlank c
  | none => false

/-- Whether the character can begin the name of an attribute. -/
def beginsAttribute (c : Char) : Bool :=
  !(Text.isBlank c || c == '/' || c == '>')

/-- Reads the attributes of a tag, at most this many, behind the part of it that was read: their
names and values and the input behind them. -/
def readAttributes : (count : Nat) → (read : List Char) → List Char →
    List (String × String) × List Char
  | 0, _, input => ([], input)
  | count + 1, read, input =>
    let start := skipGaps input
    match start with
    | [] => ([], [])
    | c :: rest =>
      if beginsAttribute c && (start.length < input.length || mayBegin read) then
        let more := rest.takeWhile fun d => beginsAttribute d && d != '='
        let name := c :: more
        let unread := rest.drop more.length
        let (value, behind) := (value? unread).getD ([], unread)
        let read := name ++ unread.take (unread.length - behind.length)
        let (others, end_) := readAttributes count read behind
        ((Text.lower (String.ofList name),
          String.ofList (CharRef.decode .asWritten value)) :: others, end_)
      else ([], start)

/-- The elements whose text is raw up to their end tag. -/
def rawElements : List String := ["script", "style"]

/-- What is read at one place: pieces, the element whose raw text begins there, and the input
behind. -/
structure Found where
  pieces : List Piece
  raw : Option String
  rest : List Char

/-- Pieces that begin no raw text. -/
def Found.of (pieces : List Piece) (rest : List Char) : Found :=
  ⟨pieces, none, rest⟩

/-- The text of characters, unless there are none. -/
def textPieces (data : List Char) : List Piece :=
  if data.isEmpty then [] else [.text (String.ofList data)]

/-- Reads a start tag from its bracket on. -/
def readOpening (input : List Char) : Found :=
  let unread := input.tail
  let written := unread.takeWhile isNameChar
  let name := Text.lower (String.ofList written)
  let (attributes, rest) :=
    readAttributes (unread.length + 1) written (unread.drop written.length)
  let opening := Piece.opening name (Entries.ofList attributes)
  match rest with
  | '>' :: rest =>
    ⟨[opening false], if rawElements.contains name then some name else none, rest⟩
  | '/' :: '>' :: rest => .of [opening true] rest
  | [] => .of [] []
  | c :: _ =>
    if c.isAlpha || c == '=' || c == '/' then .of [] []
    else .of (textPieces (input.take (input.length - rest.length))) rest

/-- Whether the character can stand in the name of an end tag that has nothing else in it. -/
def isPlainNameChar (c : Char) : Bool :=
  c.isAlphanum || c == '-' || c == '.' || c == ':' || c == '_'

/-- Reads an end tag that has nothing but its name in it, from the name on. -/
def plainClosing? (input : List Char) : Option (String × List Char) :=
  match skipBlanks input with
  | [] => none
  | c :: rest =>
    if c.isAlpha then
      let name := c :: rest.takeWhile isPlainNameChar
      (bracket (skipBlanks (rest.dropWhile isPlainNameChar))).map fun behind =>
        (Text.lower (String.ofList name), behind)
    else none

/-- Reads what stands behind `</`. -/
def readClosing (input : List Char) : Found :=
  match upTo? bracket input, input with
  | none, [] => .of [.text "</"] []
  | none, c :: _ =>
    if c.isAlpha then .of [] [] else .of [.string .comment (String.ofList input)] []
  | some (written, rest), _ =>
    match plainClosing? input, written with
    | some (name, behind), _ => .of [.closing name] behind
    | none, [] => .of [] rest
    | none, c :: _ =>
      if c.isAlpha then
        .of [.closing (Text.lower (String.ofList (written.takeWhile isNameChar)))] rest
      else .of [.string .comment (String.ofList written)] rest

/-! ## Declarations -/

/-- A comment that the input ends in: less the part of its end mark that is there. -/
def openComment (data : List Char) : Piece :=
  let ends := fun (mark : String) => mark.toList.reverse.isPrefixOf data.reverse
  let cut := if ends "--!" then 3 else if ends "--" then 2 else if ends "-" then 1 else 0
  .string .comment (String.ofList (data.take (data.length - cut)))

/-- A string of some sort up to an end mark, or up to the end of the input. -/
def readString (sort : Markup.StringSort) (mark : List Char → Option (List Char))
    (input : List Char) : Found :=
  match upTo? mark input with
  | some (data, rest) => .of [.string sort (String.ofList data)] rest
  | none => .of [.string sort (String.ofList input)] []

/-- The string that a marked section is kept as. -/
def sectionPiece (data : List Char) : Piece :=
  match behindAnyCase? "cdata[" data with
  | some rest => .string .cdata (String.ofList rest)
  | none => .string .declaration (String.ofList data)

/-- A marked section that the input ends in. -/
def openSection (input : List Char) : Found :=
  if (behind? "CDATA[" input).isSome then .of [sectionPiece input] []
  else .of [.string .comment (String.ofList ('[' :: input))] []

/-- The names of marked sections with two brackets at their end. -/
def markedNames : List String := ["temp", "cdata", "ignore", "include", "rcdata"]

/-- The names of conditional sections, with one bracket at their end. -/
def conditionNames : List String := ["if", "else", "endif"]

/-- Whether the character can go on in the name of a section. -/
def isSectionChar (c : Char) : Bool :=
  c.isAlphanum || c == '-' || c == '_' || c == '.'

/-- Reads a marked section behind `<![`. A section without a name, or with one that is not known,
is refused. -/
def readSection (input : List Char) : Except Fault Found :=
  match input with
  | [] => .ok (openSection input)
  | c :: _ =>
    if !c.isAlpha then
      .error (.markupRejected ("AssertionError: expected name token at " ++
        Text.quote (String.ofList ("<![".toList ++ input.take 17))))
    else
      let name := input.takeWhile isSectionChar
      let rest := skipBlanks (input.drop name.length)
      let known := Text.lower (String.ofList name)
      if rest.isEmpty then .ok (openSection input)
      else if markedNames.contains known || conditionNames.contains known then
        let mark := if markedNames.contains known then sectionEnd else conditionEnd
        match upTo? mark input with
        | some (data, rest) => .ok (.of [sectionPiece data] rest)
        | none => .ok (openSection input)
      else
        .error (.markupRejected ("AssertionError: unknown status keyword " ++
          Text.quote (String.ofList (input.take (input.length - rest.length))) ++
          " in marked section"))

/-- Reads what stands behind `<!`. -/
def readDeclaration (input : List Char) : Except Fault Found :=
  match behind? "--" input, behind? "[" input, behindAnyCase? "doctype" input with
  | some rest, _, _ =>
    match upTo? commentEnd rest with
    | some (data, rest) => .ok (.of [.string .comment (String.ofList data)] rest)
    | none => .ok (.of [openComment rest] [])
  | none, some rest, _ => readSection rest
  | none, none, some rest =>
    let found := (upTo? bracket rest).getD (rest, [])
    .ok (.of [.string .doctype (String.ofList found.1.tail)] found.2)
  | none, none, none => .ok (readString .comment bracket input)

/-! ## References -/

/-- The characters that a numeric reference stands for in text. Numbers below 256 are of the code
page 1252. -/
def charOf (n : Nat) : Char :=
  CharRef.charOf (CharRef.western n)

/-- Reads a number behind `&#`: its value and the count of characters. What the input ends in, or a
letter of the hexadecimal digits comes behind, is no number. -/
def number? (input : List Char) : Option (Nat × Nat) :=
  let (digits, skipped, base) := CharRef.digitsOf input
  let count := skipped + digits.length
  match digits.isEmpty, input[count]? with
  | false, some c =>
    if (Text.hexDigit? c).isSome then none else some (Text.number base digits, count)
  | _, _ => none

/-- Whether the character can stand in the name of a reference. -/
def isReferenceChar (c : Char) : Bool :=
  c.isAlphanum || c == '-' || c == '.'

/-- The name of a reference behind `&`: it ends in front of a character that is no letter and no
digit. -/
def referenceName? (input : List Char) : Option (List Char) :=
  let run := input.takeWhile isReferenceChar
  let name :=
    if run.length < input.length then run
    else (run.reverse.dropWhile Char.isAlphanum).tail.reverse
  match name with
  | [] => none
  | c :: _ => if c.isAlpha then some name else none

/-- The characters that a name without semicolon stands for. -/
def named? (name : List Char) : Option (List Char) :=
  (CharRef.named.find? fun n => n.name == name || n.name == name ++ [';']).map
    CharRef.Named.meaning

/-- The input without a semicolon at its start. -/
def skipSemicolon (input : List Char) : List Char :=
  match input with
  | ';' :: rest => rest
  | rest => rest

/-- Reads what stands behind `&`. A numeric reference that is none is text; the second time that
this happens, as when no semicolon follows, so is all behind it. -/
def readReference (second : Bool) (input : List Char) : Bool × Found :=
  match input with
  | '#' :: rest =>
    match number? rest with
    | some (n, count) =>
      (second, .of [.text (String.ofList [charOf n])] (skipSemicolon (rest.drop count)))
    | none =>
      if second || !rest.contains ';' then (true, .of (textPieces ('&' :: input)) [])
      else (true, .of [.text "&#"] rest)
  | _ =>
    match referenceName? input, input with
    | some name, _ =>
      (second, .of (textPieces ((named? name).getD ('&' :: name)))
        (skipSemicolon (input.drop name.length)))
    | none, c :: rest =>
      if c.isAlpha then
        (second, .of (textPieces (if rest.isEmpty then input else '&' :: input)) [])
      else (second, .of [.text "&"] input)
    | none, [] => (second, .of [.text "&"] [])

/-! ## Markup -/

/-- Reads what stands behind `<`. -/
def readBracket (input : List Char) : Except Fault Found :=
  match input with
  | '/' :: rest => .ok (readClosing rest)
  | '?' :: rest => .ok (readString .processing bracket rest)
  | '!' :: rest => readDeclaration rest
  | c :: _ =>
    if c.isAlpha then .ok (readOpening ('<' :: input)) else .ok (.of [.text "<"] input)
  | [] => .ok (.of [.text "<"] [])

/-- Reads the raw text of an element with its end tag. -/
def readRaw (name : String) (input : List Char) : Found :=
  match upTo? (rawEnd name) input with
  | some (data, rest) => .of (textPieces data ++ [.closing name]) rest
  | none => .of [] []

/-- Whether the character is plain text. -/
def isPlain (c : Char) : Bool :=
  c != '<' && c != '&'

/-- Takes the input apart in at most this many steps. `second` says whether a numeric reference
was none before, `raw` names the element whose raw text begins here. -/
def piecesWithin : (steps : Nat) → (second : Bool) → (raw : Option String) → List Char →
    Except Fault (List Piece)
  | 0, _, _, _ => .ok []
  | _ + 1, _, _, [] => .ok []
  | steps + 1, second, some name, input => do
    let r := readRaw name input
    let others ← piecesWithin steps second none r.rest
    .ok (r.pieces ++ others)
  | steps + 1, second, none, c :: rest => do
    if c = '<' then
      let r ← readBracket rest
      let others ← piecesWithin steps second r.raw r.rest
      .ok (r.pieces ++ others)
    else if c = '&' then
      let (second, r) := readReference second rest
      let others ← piecesWithin steps second none r.rest
      .ok (r.pieces ++ others)
    else
      let others ← piecesWithin steps second none (rest.dropWhile isPlain)
      .ok (.text (String.ofList (c :: rest.takeWhile isPlain)) :: others)

/-- Takes markup apart. Every step takes a character at least. -/
def pieces (markup : String) : Except Fault (List Piece) :=
  let input := markup.toList
  piecesWithin (input.length + 1) false none input

end TypedMarkup.Html.Written
