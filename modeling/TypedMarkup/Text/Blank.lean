/-!
# Blanks

Which characters count as blank, and the operations that read them. `strip` takes the blanks off
both ends of a text, `words` splits a text at every run of blanks, and `join` writes pieces with a
separator between neighbours. Each has a form on lists of characters (`stripChars`, `wordChars`)
that carries its rules.
-/

namespace TypedMarkup.Text

/-- The blank characters: the white space of Unicode and the separators U+001C to U+001F. -/
def isBlank (c : Char) : Bool :=
  let n := c.toNat
  (9 ≤ n && n ≤ 13) || (0x1C ≤ n && n ≤ 0x20) || n == 0x85 || n == 0xA0 || n == 0x1680 ||
    (0x2000 ≤ n && n ≤ 0x200A) || n == 0x2028 || n == 0x2029 || n == 0x202F || n == 0x205F ||
    n == 0x3000

/-- The characters without the blanks in front of them. -/
def trimStart (s : List Char) : List Char :=
  s.dropWhile isBlank

/-- The characters without the blanks behind them. -/
def trimEnd (s : List Char) : List Char :=
  (s.reverse.dropWhile isBlank).reverse

/-- The characters without the blanks at either end. -/
def stripChars (s : List Char) : List Char :=
  trimEnd (trimStart s)

/-- The text without the blanks at either end; blanks inside stay as they are. -/
def strip (s : String) : String :=
  String.ofList (stripChars s.toList)

/-- Whether a word ends here: at a blank or at the end of the text. -/
def atWordEnd : List Char → Bool
  | [] => true
  | c :: _ => isBlank c

/-- The longest stretches free of blanks, in order; none of them is empty. -/
def wordChars : List Char → List (List Char)
  | [] => []
  | c :: cs =>
    if isBlank c then wordChars cs
    else if atWordEnd cs then [c] :: wordChars cs
    else
      match wordChars cs with
      | [] => [[c]]
      | w :: ws => (c :: w) :: ws

/-- The words of a text: its longest stretches free of blanks, in order. -/
def words (s : String) : List String :=
  (wordChars s.toList).map String.ofList

/-- The pieces with `separator` between neighbours. -/
def join (separator : String) : List String → String
  | [] => ""
  | [s] => s
  | s :: t :: rest => s ++ separator ++ join separator (t :: rest)

/-- The stretches between occurrences of `separator`, empty ones included; never an empty list. -/
def splitChars (separator : Char) : List Char → List (List Char)
  | [] => [[]]
  | c :: cs =>
    match splitChars separator cs with
    | [] => [[c]]
    | part :: parts => if c = separator then [] :: part :: parts else (c :: part) :: parts

/-- The parts of a text between occurrences of `separator`. -/
def split (separator : Char) (s : String) : List String :=
  (splitChars separator s.toList).map String.ofList

end TypedMarkup.Text
