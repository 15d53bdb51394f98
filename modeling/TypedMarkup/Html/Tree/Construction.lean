import TypedMarkup.Html.Tree.StartTag

/-!
# The construction of trees

Tokens are read one after another, each in the mode that the one before has left, or by the rules
for foreign markup where a drawing or mathematics is open. The end of the input closes all.
`Document.ofMarkup` makes a document of any markup; none is refused.
-/

namespace TypedMarkup.Html

namespace Builder

/-! ## Foreign markup -/

/-- Whether an element of mathematics holds text. -/
def isMathText (b : Builder) (n : Nat) : Bool :=
  b.space n = .math && Vocabulary.mathText.contains (b.name n)

/-- Whether an annotation in mathematics is marked as markup. -/
def isMarkupAnnotation (b : Builder) (n : Nat) : Bool :=
  match Entries.find? "encoding" (b.draft.attributes n) with
  | some (.text encoding) =>
    ["text/html", "application/xhtml+xml"].contains
      (String.ofList (encoding.toList.map Char.toLower))
  | _ => false

/-- Whether a foreign element holds markup. -/
def holdsMarkup (b : Builder) (n : Nat) : Bool :=
  match b.space n with
  | .html => false
  | .svg => Vocabulary.drawingMarkup.contains (b.name n)
  | .math => b.name n == "annotation-xml" && b.isMarkupAnnotation n

/-- Whether an open foreign element takes the token, rather than the mode. -/
def isForeign (b : Builder) (t : Token) : Bool :=
  match b.opened with
  | [] => false
  | n :: _ =>
    let isText := match t with | .text _ | .spaces _ => true | _ => false
    let started := match t with | .startTag tag => some tag.name | _ => none
    let inMathText := b.isMathText n &&
      (isText || started.any fun name => name != "mglyph" && name != "malignmark")
    let inAnnotation := b.space n = .math && b.name n == "annotation-xml" && started == some "svg"
    let inMarkup := b.holdsMarkup n && (isText || started.isSome)
    !(b.space n = .html || inMathText || inAnnotation || inMarkup)

/-- Whether a start tag ends all foreign elements. -/
def breaksOut (tag : Tag) : Bool :=
  Vocabulary.breakouts.contains tag.name ||
    (tag.name == "font" && ["color", "face", "size"].any fun key => tag.attributes.has key)

/-- Closes foreign elements down to one that holds markup or is not foreign. -/
def closeForeign (b : Builder) : Builder :=
  { b with
    opened := b.opened.dropWhile fun n =>
      !(b.space n = .html || b.isMathText n || b.holdsMarkup n) }

/-- The start tag as it is spelled in the foreign markup around it. -/
def spelledIn (space : Namespace) (tag : Tag) : Tag :=
  match space with
  | .svg =>
    Foreign.drawing { tag with name := Foreign.restore Foreign.drawingTags tag.name }
  | .math => Foreign.math tag
  | .html => Foreign.qualifiedLast tag

/-- Reads a start tag in a foreign element. -/
def startInForeign (b : Builder) (tag : Tag) : Step :=
  if breaksOut tag then b.closeForeign.retry
  else
    let space := b.space b.current
    let b := b.openIn space (spelledIn space tag)
    (if tag.selfClosing then b.pop else b).done

/-- Whether an element has this name but for its capitals. -/
def hasSmallName (b : Builder) (name : String) (n : Nat) : Bool :=
  String.ofList ((b.name n).toList.map Char.toLower) == name

/-- Reads an end tag in a foreign element: it ends the innermost foreign element of its name, or
else it is for the mode. -/
def endInForeign (b : Builder) (name : String) : Step :=
  match b.opened with
  | [] => b.done
  | n :: rest =>
    let isEnded := b.hasSmallName name
    let found :=
      if isEnded n then some n
      else rest.find? fun m => b.space m = .html || isEnded m
    match found with
    | none => b.done
    | some m =>
      if m = n || b.space m != .html then
        let b := if b.mode = .inTableText then b.flushTableText else b
        (b.popThrough (· == m)).done
      else b.readEndTag name

/-- Reads a token in a foreign element. -/
def readForeign (b : Builder) (t : Token) : Step :=
  match t with
  | .text data =>
    let data := if data = "\x00" then String.ofList [CharRef.replacement] else data
    { b.addText data with framesetAllowed := b.framesetAllowed && !isInked data }.done
  | .spaces data => (b.addText data).done
  | .startTag tag => b.startInForeign tag
  | .endTag name => b.endInForeign name
  | .comment data => (b.addComment b.current data).done
  | .doctype _ => b.done

/-! ## Tokens -/

/-- Reads a token in the mode. -/
def readInMode (b : Builder) (t : Token) : Step :=
  match t with
  | .text data => b.readText data
  | .spaces data => b.readSpaces data
  | .startTag tag => b.readStartTag tag
  | .endTag name => b.readEndTag name
  | .comment data => b.readComment data
  | .doctype d => b.readDoctype d

/-- Reads a token, again where a step asks for that, in at most this many steps. -/
def readWithin (t : Token) : (steps : Nat) → Builder → Builder
  | 0, b => b
  | steps + 1, b =>
    let step := if b.isForeign t then b.readForeign t else b.readInMode t
    if step.again then readWithin t steps step.builder else step.builder

/-- The most steps that one token takes: between two steps that close an open element lies no more
than a walk through the modes. -/
def stepBound (b : Builder) : Nat :=
  16 * (b.opened.length + 2)

/-- Reads a token. -/
def read (b : Builder) (t : Token) : Builder :=
  readWithin t b.stepBound b

/-- Reads the end of the input, in the mode. -/
def readEnd (b : Builder) : Step :=
  match b.mode with
  | .initial => b.leaveInitial.retry
  | .beforeHtml => b.openRoot.retry
  | .beforeHead => (b.openHead (Tag.named "head")).retry
  | .inHead => b.closeHead.retry
  | .inHeadNoscript => b.closeNoscript.retry
  | .afterHead => b.openBody.retry
  | .text => (b.pop.setMode b.modeAfterText).retry
  | .inTableText => b.flushTableText.retry
  | .inColumnGroup => b.closeColumnGroup
  | _ => b.done

/-- Reads the end of the input, again where a step asks for that, in at most this many steps. -/
def finishWithin : (steps : Nat) → Builder → Builder
  | 0, b => b
  | steps + 1, b =>
    let step := b.readEnd
    if step.again then finishWithin steps step.builder else step.builder

/-- Reads the end of the input. -/
def finish (b : Builder) : Builder :=
  finishWithin b.stepBound b

/-- What the characters that come next are taken for, once a token was read from them: a tag ends
the raw text it stands in. -/
def settleContent (b : Builder) (t : Token) : Builder :=
  match t with
  | .startTag _ | .endTag _ => { b with content := .markup }
  | _ => b

/-- Reads the tokens of the input, at most this many. -/
def readTokens : (count : Nat) → Builder → List Char → Builder
  | 0, b, _ => b
  | _ + 1, b, [] => b
  | count + 1, b, input =>
    let inForeign := b.opened.head?.any fun n => b.space n != .html
    match Token.next b.content inForeign input with
    | (some t, rest) => readTokens count ((b.settleContent t).read t) rest
    | (none, rest) => readTokens count b rest

end Builder

/-- The document that markup stands for. Every token takes a character at least. -/
def documentOfMarkup (markup : String) : Markup.Document :=
  let input := settleLines markup.toList
  (Builder.readTokens (input.length + 1) Builder.start input).finish.draft.toDocument

end TypedMarkup.Html
