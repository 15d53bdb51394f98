import TypedMarkup.Text.CaseTable

/-!
# Letter case

The full case mappings of Unicode. `lower` and `upper` map a whole text: a character may become
several (`İ` gives `i` and a combining dot, `ß` gives `SS`), and a capital sigma at the end of a
word has its own small form.
-/

namespace TypedMarkup.Text

/-- Whether the run maps the character with this code point. -/
def CaseRun.Maps (r : CaseRun) (n : Nat) : Bool :=
  r.first ≤ n && n ≤ r.last && (n - r.first) % r.step == 0

/-- The image of a code point under the first run that maps it. -/
def mapByRuns (runs : List CaseRun) (n : Nat) : Option Nat :=
  (runs.find? fun r => r.Maps n).map fun r => ((n : Int) + r.offset).toNat

/-- Whether a code point lies in one of the ranges. -/
def inRanges (ranges : List (Nat × Nat)) (n : Nat) : Bool :=
  ranges.any fun r => r.1 ≤ n && n ≤ r.2

/-- The small form of a character outside any word. -/
def lowerChar (c : Char) : List Char :=
  if c.toNat = 0x130 then ['i', Char.ofNat 0x307]
  else
    match mapByRuns lowerRuns c.toNat with
    | some n => [Char.ofNat n]
    | none => [c]

/-- The capital form of a character. -/
def upperChar (c : Char) : List Char :=
  match upperWide.lookup c.toNat with
  | some ns => ns.map Char.ofNat
  | none =>
    match mapByRuns upperRuns c.toNat with
    | some n => [Char.ofNat n]
    | none => [c]

/-- Whether the nearest character that casing rules do not look through has case. -/
def nextIsCased : List Char → Bool
  | [] => false
  | c :: cs =>
    if inRanges ignorableRanges c.toNat then nextIsCased cs else inRanges casedRanges c.toNat

/-- The small form of a capital sigma: `ς` at the end of a word, else `σ`. `before` holds what
precedes it, nearest first. -/
def lowerSigma (before after : List Char) : Char :=
  if nextIsCased before && !nextIsCased after then 'ς' else 'σ'

/-- The small form of the characters, after those of `before`, nearest first. -/
def lowerAfter (before : List Char) : List Char → List Char
  | [] => []
  | c :: cs =>
    (if c = 'Σ' then [lowerSigma before cs] else lowerChar c) ++ lowerAfter (c :: before) cs

/-- The text in small letters. -/
def lower (s : String) : String :=
  String.ofList (lowerAfter [] s.toList)

/-- The text in capital letters. -/
def upper (s : String) : String :=
  String.ofList (s.toList.flatMap upperChar)

end TypedMarkup.Text
