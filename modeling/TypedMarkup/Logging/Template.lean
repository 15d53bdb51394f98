import TypedMarkup.Notice
import TypedMarkup.Text.Digit

/-!
# Record templates

How a record becomes a line of text. A template has fields such as `%(levelname)-8s`, which stand
for parts of the record, `%%` for a percent sign, and plain text. A coloured line has the name of
its level marked where it comes first.
-/

namespace TypedMarkup.Logging

/-- How a field is laid out: to the left or right of its width, padded with zeros, with a sign,
and cut to a length. -/
structure FieldLayout where
  left : Bool
  zeros : Bool
  plus : Bool
  space : Bool
  width : Nat
  limit : Option Nat
  deriving Repr, DecidableEq

/-- A piece of a template. -/
inductive Piece where
  | plain (c : Char)
  | percent (layout : FieldLayout)
  | field (name : String) (layout : FieldLayout) (conversion : Char)
  deriving Repr, DecidableEq

/-- How much of a field has been read. -/
inductive Progress where
  | outside
  | start
  | name (read : List Char)
  | flags (name : Option String) (layout : FieldLayout)
  | width (name : Option String) (layout : FieldLayout)
  | limit (name : Option String) (layout : FieldLayout)
  deriving Repr, DecidableEq

/-- The layout that does nothing. -/
def FieldLayout.standard : FieldLayout :=
  ⟨false, false, false, false, 0, none⟩

/-- The end of a field at its conversion letter. -/
def finish (name : Option String) (layout : FieldLayout) (c : Char) : Option (Progress × List Piece) :=
  match name with
  | some n => if "sdr".toList.contains c then some (.outside, [.field n layout c]) else none
  | none => if c = '%' then some (.outside, [.percent layout]) else none

/-- Reads a character of a field behind its flags. -/
def afterFlags (name : Option String) (layout : FieldLayout) (c : Char) :
    Option (Progress × List Piece) :=
  match Text.digit? c with
  | some d => some (.width name { layout with width := layout.width * 10 + d }, [])
  | none => if c = '.' then some (.limit name { layout with limit := some 0 }, [])
    else finish name layout c

/-- Reads a character of the flags of a field. -/
def readFlag (name : Option String) (layout : FieldLayout) (c : Char) :
    Option (Progress × List Piece) :=
  match c with
  | '-' => some (.flags name { layout with left := true }, [])
  | '0' => some (.flags name { layout with zeros := true }, [])
  | '+' => some (.flags name { layout with plus := true }, [])
  | ' ' => some (.flags name { layout with space := true }, [])
  | '#' => some (.flags name layout, [])
  | c => afterFlags name layout c

/-- Reads one character of a template: how far reading has come, and the pieces that end here. -/
def Progress.step : Progress → Char → Option (Progress × List Piece)
  | .outside, c => if c = '%' then some (.start, []) else some (.outside, [.plain c])
  | .start, c => if c = '(' then some (.name [], []) else readFlag none FieldLayout.standard c
  | .name read, c =>
    if c = ')' then some (.flags (some (String.ofList read.reverse)) FieldLayout.standard, [])
    else some (.name (c :: read), [])
  | .flags field layout, c => readFlag field layout c
  | .width field layout, c => afterFlags field layout c
  | .limit field layout, c =>
    match Text.digit? c, layout.limit with
    | some d, some n => some (.limit field { layout with limit := some (n * 10 + d) }, [])
    | _, _ => finish field layout c

/-- The pieces of the characters, after what has been read. -/
def piecesFrom : Progress → List Char → Option (List Piece)
  | .outside, [] => some []
  | _, [] => none
  | p, c :: cs =>
    match p.step c with
    | none => none
    | some (p, out) => (piecesFrom p cs).map (out ++ ·)

/-- Whether the piece shows a part of the record. -/
def Piece.isField : Piece → Bool
  | field .. => true
  | plain _ | percent _ => false

/-- The pieces of a template, which must show some part of the record. -/
def pieces? (template : String) : Option (List Piece) :=
  (piecesFrom .outside template.toList).filter fun ps => ps.any Piece.isField

/-- Fills a text up to the width of a layout. -/
def FieldLayout.fill (layout : FieldLayout) (s : List Char) : List Char :=
  let blank := List.replicate (layout.width - s.length) ' '
  if layout.left then s ++ blank else blank ++ s

/-- The layout of a text: cut to its limit, then filled. -/
def FieldLayout.text (layout : FieldLayout) (s : List Char) : List Char :=
  layout.fill (match layout.limit with
    | some n => s.take n
    | none => s)

/-- The layout of a number. -/
def FieldLayout.number (layout : FieldLayout) (n : Nat) : List Char :=
  let digits := Nat.toDigits 10 n
  let least := layout.limit.getD 1
  let digits := List.replicate (least - digits.length) '0' ++ digits
  let sign := if layout.plus then ['+'] else if layout.space then [' '] else []
  if layout.zeros && !layout.left then
    sign ++ List.replicate (layout.width - sign.length - digits.length) '0' ++ digits
  else layout.fill (sign ++ digits)

/-- What a field shows of a record. -/
def field? (r : LogRecord) (name : String) (layout : FieldLayout) (conversion : Char) :
    Option (List Char) :=
  let shown (s : String) : Option (List Char) :=
    match conversion with
    | 's' => some (layout.text s.toList)
    | 'r' => some (layout.text (Text.quoteChars s.toList))
    | _ => none
  match name with
  | "levelname" => shown (Level.nameOf r.level)
  | "levelno" =>
    if conversion = 'd' then some (layout.number r.level)
    else some (layout.text (Nat.repr r.level).toList)
  | "name" => shown r.logger
  | "message" => shown r.message
  | _ => none

/-- The line that the pieces of a template make of a record. -/
def render (r : LogRecord) : List Piece → Option (List Char)
  | [] => some []
  | .plain c :: rest => (render r rest).map (c :: ·)
  | .percent layout :: rest => (render r rest).map (layout.fill ['%'] ++ ·)
  | .field name layout conversion :: rest =>
    match field? r name layout conversion with
    | some s => (render r rest).map (s ++ ·)
    | none => none

/-- The text with the first occurrence of `what` replaced. -/
def replaceFirst (what by_ : List Char) : List Char → List Char
  | [] => if what.isEmpty then by_ else []
  | c :: cs =>
    if what.isPrefixOf (c :: cs) then by_ ++ (c :: cs).drop what.length
    else c :: replaceFirst what by_ cs

/-- A control sequence that sets how a terminal shows text. -/
def ansi (code : String) : String :=
  "\x1b[" ++ code ++ "m"

/-- The control sequence for a level. -/
def Level.color : Level → String
  | .debug => ansi "34"
  | .info => ansi "32"
  | .warning => ansi "33"
  | .error => ansi "31"
  | .critical => ansi "31" ++ ansi "1"

/-- The line with the name of its level marked where it comes first. -/
def colored (r : LogRecord) (line : String) : String :=
  match Level.all.find? fun l => l.number == r.level with
  | some l =>
    String.ofList
      (replaceFirst l.name.toList (Level.color l ++ l.name ++ ansi "0").toList line.toList)
  | none => line

/-- The line of a record by a template, or `none` if the template is not well formed. -/
def line? (template : String) (color : Bool) (r : LogRecord) : Option String := do
  let pieces ← pieces? template
  let cs ← render r pieces
  let line := String.ofList cs
  some (if color then colored r line else line)

end TypedMarkup.Logging
