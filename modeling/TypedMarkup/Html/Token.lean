import TypedMarkup.Entries

/-!
# Tokens

The lexical units of markup and the classes of characters that delimit them. White space comes as
tokens of its own where a parser treats it apart from other text.
-/

namespace TypedMarkup.Html

/-- The white space of markup. -/
def isSpace (c : Char) : Bool :=
  c == ' ' || c == '\t' || c == '\n' || c == '\x0c' || c == '\r'

/-- The characters behind any white space. -/
def skipSpace (input : List Char) : List Char :=
  input.dropWhile isSpace

/-- The character that a null in markup is read as. -/
def settleNull (c : Char) : Char :=
  if c = '\x00' then Char.ofNat 0xFFFD else c

/-- Whether the input begins with a word, in letters of either case. -/
def beginsWith (word : String) (input : List Char) : Bool :=
  (input.take word.length).map Char.toLower == word.toList

/-- A start tag. -/
structure Tag where
  name : String
  attributes : Entries String
  selfClosing : Bool
  deriving Repr, Inhabited

/-- A start tag without attributes. -/
def Tag.named (name : String) : Tag :=
  ⟨name, [], false⟩

/-- A document type. It is not `correct` when its text departs from the grammar. -/
structure Doctype where
  name : String
  publicId : Option String
  systemId : Option String
  correct : Bool
  deriving Repr, Inhabited

/-- A lexical unit of markup. -/
inductive Token where
  | doctype (d : Doctype)
  | startTag (tag : Tag)
  | endTag (name : String)
  | comment (data : String)
  | text (data : String)
  | spaces (data : String)
  deriving Repr, Inhabited

end TypedMarkup.Html
