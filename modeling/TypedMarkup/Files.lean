import TypedMarkup.Fault
import TypedMarkup.Text.Blank
import TypedMarkup.Text.Utf8

/-!
# Files

A tree of files as a value: what `read` finds under a path, and what `write`, `append` and
`makeDirectories` leave. Paths are relative, with `/` between their parts.
-/

namespace TypedMarkup

/-- What stands under a path. -/
inductive FileEntry where
  | directory
  | file (bytes : List UInt8)
  deriving Repr, DecidableEq

/-- Files and directories, by the parts of their paths. The top directory is always there. -/
abbrev Files := List (List String × FileEntry)

namespace Files

/-- The parts of a path. -/
def parts (path : String) : List String :=
  (Text.split '/' path).filter fun part => part != "" && part != "."

/-- What stands under a path given by its parts. -/
def entry? (files : Files) (path : List String) : Option FileEntry :=
  if path.isEmpty then some .directory
  else (files.find? fun e => e.1 == path).map Prod.snd

/-- Puts an entry under a path given by its parts. -/
def put (files : Files) (path : List String) (entry : FileEntry) : Files :=
  files.filter (fun e => e.1 != path) ++ [(path, entry)]

/-- The directory that holds a path, as a path. -/
def directoryOf (path : String) : String :=
  String.ofList ((path.toList.reverse.dropWhile (· ≠ '/')).drop 1).reverse

/-- Why a path leads nowhere, if one of the directories on the way is missing or is a file. -/
def wayFault? (files : Files) (name : String) : (walked rest : List String) → Option Fault
  | _, [] => none
  | _, [_] => none
  | walked, part :: rest =>
    match files.entry? (walked ++ [part]) with
    | some .directory => files.wayFault? name (walked ++ [part]) rest
    | some (.file _) => some (.notDirectory name)
    | none => some (.fileNotFound name)

/-- Whether something stands under a path. -/
def holds (files : Files) (path : String) : Bool :=
  (files.wayFault? path [] (parts path)).isNone && (files.entry? (parts path)).isSome &&
    path != ""

/-- The bytes of the file under a path. -/
def read (files : Files) (path : String) : Except Fault (List UInt8) :=
  match files.wayFault? path [] (parts path) with
  | some fault => .error fault
  | none =>
    match files.entry? (parts path) with
    | some (.file bytes) => .ok bytes
    | some .directory => .error (if path == "" then .fileNotFound path else .isDirectory path)
    | none => .error (.fileNotFound path)

/-- Writes the file under a path, in a directory that is there. -/
def write (files : Files) (path : String) (bytes : List UInt8) : Except Fault Files :=
  match files.wayFault? path [] (parts path) with
  | some fault => .error fault
  | none =>
    match files.entry? (parts path) with
    | some .directory => .error (.isDirectory path)
    | _ => .ok (files.put (parts path) (.file bytes))

/-- Writes behind what the file under a path holds. -/
def append (files : Files) (path : String) (bytes : List UInt8) : Except Fault Files :=
  match files.read path with
  | .ok old => files.write path (old ++ bytes)
  | .error _ => files.write path bytes

/-- Makes the directories of a path that are missing, from the top down. -/
def makeFrom (files : Files) (name : String) : (walked rest : List String) → Except Fault Files
  | _, [] => .ok files
  | walked, part :: rest =>
    let path := walked ++ [part]
    match files.entry? path with
    | some .directory => files.makeFrom name path rest
    | some (.file _) => .error (if rest.isEmpty then .fileExists name else .notDirectory name)
    | none => (files.put path .directory).makeFrom name path rest

/-- Makes a directory and those above it, as far as they are missing. -/
def makeDirectories (files : Files) (path : String) : Except Fault Files :=
  files.makeFrom path [] (parts path)

/-- Puts a file or, if the name ends in a slash, a directory under a name, and makes the
directories above it. -/
def place (files : Files) (name : String) (bytes : List UInt8) : Files :=
  let path := parts name
  let above := path.length - 1
  let files := (List.range above).foldl (fun files k =>
    match files.entry? (path.take (k + 1)) with
    | some _ => files
    | none => files.put (path.take (k + 1)) .directory) files
  files.put path (if name.toList.getLast? == some '/' then .directory else .file bytes)

end Files

end TypedMarkup
