import TypedMarkup.Markup.Node
import TypedMarkup.Notice
import TypedMarkup.Settings.Config
import TypedMarkup.Text.Utf8

/-!
# Reading markup

From what a caller hands over to a parsed document. `Content.decode` makes text of it, without a
byte order mark in front; `Source` names the parser to use and the one to fall back to, and reads
documents and fragments with it.
-/

namespace TypedMarkup.Markup

/-- Markup as a caller hands it over. -/
inductive Content where
  | absent
  | text (s : String)
  | bytes (bs : List UInt8)
  deriving Repr

/-- The byte order mark. -/
def byteOrderMark : Char := Char.ofNat 0xFEFF

/-- The text of the content, as it stands; bytes are read as UTF-8. -/
def Content.rawText : Content → String
  | absent => ""
  | text s => s
  | bytes bs => Text.Utf8.repair bs

/-- A text without one byte order mark at its start. -/
def dropMark (s : String) : String :=
  match s.toList with
  | c :: rest => if c = byteOrderMark then String.ofList rest else s
  | [] => s

/-- The text of the content without one byte order mark at its start. -/
def Content.decode (content : Content) : String :=
  dropMark content.rawText

/-- Whether a byte order mark is taken off the content. -/
def Content.hasMark (content : Content) : Bool :=
  content.rawText.toList.head? == some byteOrderMark

/-- A choice of parsers: what makes a document of markup, for the features that name a parser. -/
abbrev Backend := (features : Value) → (markup : String) → Except Fault Document

/-- The parser to use and the one to fall back to. -/
structure Source where
  features : Value
  fallback : Value
  backend : Backend

/-- What reading gives: the result, the markup and features of each attempt to parse, and the
notices on the way. -/
structure Reading (α : Type) where
  result : Except Fault α
  attempts : List (String × Value)
  notices : List Notice

namespace Source

/-- The source that a configuration names. -/
def ofConfig (config : Config) (backend : Backend) : Source where
  features := config.read "parser.features" (.text "html5lib")
  fallback := config.read "parser.fallback_features" (.text "html.parser")
  backend := backend

/-- The notice on a new source. -/
def ready (s : Source) : Notice :=
  .parserReady s.features s.fallback

/-- Whether there is another parser to fall back to. -/
def hasFallback (s : Source) : Bool :=
  !(Value.same s.fallback .null || Value.same s.fallback s.features)

/-- Parses markup; when that fails, falls back once. -/
def parse (s : Source) (markup : String) : Reading Document :=
  match s.backend s.features markup with
  | .ok document => ⟨.ok document, [(markup, s.features)], []⟩
  | .error fault =>
    if s.hasFallback then
      ⟨s.backend s.fallback markup, [(markup, s.features), (markup, s.fallback)],
        [.fellBack s.features fault.message s.fallback]⟩
    else ⟨.error fault, [(markup, s.features)], []⟩

/-- The notices on decoding content. -/
def markNotices (content : Content) : List Notice :=
  if content.hasMark then [.markRemoved] else []

/-- Reads a complete document. -/
def readDocument (s : Source) (content : Content) : Reading Document :=
  let reading := s.parse content.decode
  { reading with notices := markNotices content ++ reading.notices }

/-- The name of the node that stands for a whole document. -/
def documentName : String := "[document]"

/-- Reads a fragment: the body that holds its top nodes, or the document if it has no body. -/
def readFragment (s : Source) (content : Content) : Reading Node :=
  let reading := s.parse ("<body>" ++ content.decode)
  let notices := markNotices content ++ reading.notices
  match reading.result with
  | .error fault => ⟨.error fault, reading.attempts, notices⟩
  | .ok document =>
    match document.body? with
    | some body => ⟨.ok body, reading.attempts, notices⟩
    | none =>
      ⟨.ok (.element documentName [] document), reading.attempts,
        notices ++ [.bodyMissingInFragment]⟩

end Source

end TypedMarkup.Markup
