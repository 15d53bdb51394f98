import TypedMarkup.Entries

/-!
# Command line arguments

The options of the command and the one file it takes. A long option may be shortened as long as
only one begins so, and may carry its value behind an equals sign; `--` ends the options. A word
that looks like a negative number or holds a space is no option.
-/

namespace TypedMarkup.CommandLine

/-- What the command line asks for. -/
structure Arguments where
  file : Option String
  document : Bool
  config : Option String
  debug : Bool
  deriving Repr, DecidableEq

/-- The options of the command. -/
inductive Switch where
  | help
  | document
  | config
  | debug
  deriving Repr, DecidableEq

/-- The names of the options. -/
def switches : List (String × Switch) := [
  ("-h", .help), ("--help", .help), ("--document", .document), ("--config", .config),
  ("--debug", .debug)]

/-- What an argument is taken for: a word, the end of the options, or an option that may be unknown
and may have a value written with it. A short option can have others written behind it. -/
inductive Argument where
  | word (s : String)
  | endOfOptions
  | switch (s : Switch) (value : Option String) (short : Bool)
  | unknown
  deriving Repr, DecidableEq

/-- How the command ends without doing its work: after printing help, or on wrong usage. -/
inductive Exit where
  | helped
  | usage
  deriving Repr, DecidableEq

/-- The exit code. -/
def Exit.code : Exit → Nat
  | helped => 0
  | usage => 2

/-- The name and the value of an argument with an equals sign. -/
def splitValue (cs : List Char) : List Char × Option String :=
  if cs.contains '=' then
    (cs.takeWhile (· ≠ '='), some (String.ofList ((cs.dropWhile (· ≠ '=')).drop 1)))
  else (cs, none)

/-- Whether the characters are decimal digits. -/
def areDigits (cs : List Char) : Bool :=
  cs.all Char.isDigit

/-- Whether the characters behind a minus sign make it a negative number. -/
def isNumber (cs : List Char) : Bool :=
  let whole := cs.takeWhile Char.isDigit
  match cs.drop whole.length with
  | [] => !whole.isEmpty
  | '.' :: places => areDigits places && !places.isEmpty
  | _ => false

/-- The options that an argument may stand for, with their values. -/
def candidates (cs : List Char) : List Argument :=
  match cs with
  | '-' :: '-' :: _ =>
    let (name, value) := splitValue cs
    (switches.filter fun s => name.isPrefixOf s.1.toList).map fun s => .switch s.2 value false
  | '-' :: c :: rest =>
    (switches.filter fun s => s.1.toList == ['-', c]).map fun s =>
      .switch s.2 (some (String.ofList rest)) true
  | _ => []

/-- What a single argument is taken for, or nothing if it could be two options. -/
def classify? (s : String) : Option Argument :=
  match s.toList with
  | [] | ['-'] => some (.word s)
  | '-' :: rest =>
    match Entries.find? s switches with
    | some switch => some (.switch switch none (rest.head? != some '-'))
    | none =>
      let (name, value) := splitValue s.toList
      match value, Entries.find? (String.ofList name) switches with
      | some v, some switch => some (.switch switch (some v) (rest.head? != some '-'))
      | _, _ =>
        match candidates s.toList with
        | [argument] => some argument
        | _ :: _ :: _ => none
        | [] => if isNumber rest || rest.contains ' ' then some (.word s) else some .unknown
  | _ => some (.word s)

/-- What the arguments are taken for; all behind `--` are words. -/
def classifyAll : List String → Option (List Argument)
  | [] => some []
  | "--" :: rest => some (.endOfOptions :: rest.map .word)
  | s :: rest => do
    let argument ← classify? s
    let others ← classifyAll rest
    some (argument :: others)

/-- What has been found so far; `taken` tells whether the file has, and `extra` whether something
was left over. -/
structure Found where
  arguments : Arguments
  taken : Bool
  extra : Bool
  deriving Repr, DecidableEq

/-- Before any argument. -/
def Found.initial : Found :=
  ⟨⟨none, false, none, false⟩, false, false⟩

/-- Takes a word: as the file if there is none yet. -/
def Found.word (f : Found) (s : String) : Found :=
  if f.taken then { f with extra := true }
  else { f with arguments := { f.arguments with file := some s }, taken := true }

/-- Applies an option without value. -/
def Found.apply (f : Found) : Switch → Except Exit Found
  | .help => .error .helped
  | .document => .ok { f with arguments := { f.arguments with document := true } }
  | .debug => .ok { f with arguments := { f.arguments with debug := true } }
  | .config => .error .usage

/-- Applies an option with a value written with it. Behind a short option the value can only be
more short options. -/
def Found.applyValue (f : Found) (s : Switch) (value : String) (short : Bool) :
    Except Exit Found :=
  match s with
  | .config => .ok { f with arguments := { f.arguments with config := some value } }
  | .help => .error (if short && value != "" && value.toList.all (· == 'h') then .helped else .usage)
  | .document | .debug => .error .usage

/-- Takes the words behind `--`. What stood there before the file keeps the sign for itself. -/
def Found.rest (f : Found) (words : List Argument) : Found :=
  if f.taken then { f with extra := true }
  else
    match words with
    | [] => f
    | [.word s] => f.word s
    | _ => { f with extra := true }

/-- Takes the arguments in order. The sign `--` may stand right behind the file. -/
def collect (f : Found) : List Argument → Except Exit Found
  | [] => .ok f
  | .word s :: rest =>
    match rest with
    | [.endOfOptions] => .ok (f.word s)
    | rest => collect (f.word s) rest
  | .endOfOptions :: rest => .ok (f.rest rest)
  | .unknown :: rest => collect { f with extra := true } rest
  | .switch s (some value) short :: rest =>
    match f.applyValue s value short with
    | .ok f => collect f rest
    | .error e => .error e
  | .switch .config none _ :: .word value :: rest =>
    collect { f with arguments := { f.arguments with config := some value } } rest
  | .switch s none _ :: rest =>
    match f.apply s with
    | .ok f => collect f rest
    | .error e => .error e

/-- What the command line asks for, or how the command ends without. -/
def parse (argv : List String) : Except Exit Arguments :=
  match classifyAll argv with
  | none => .error .usage
  | some arguments =>
    match collect Found.initial arguments with
    | .error e => .error e
    | .ok f => if f.extra then .error .usage else .ok f.arguments

end TypedMarkup.CommandLine
