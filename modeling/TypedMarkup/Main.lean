import TypedMarkup.CommandLine.Run
import TypedMarkup.Html.Backend

/-!
# The program

The command on real files. It reads the files that a run needs, runs `CommandLine.run` on them, and
writes the log file and the outline. Lines on the console carry no time of day.
-/

namespace TypedMarkup.CommandLine

/-- Adds what stands under a path to the files. -/
def load (files : Files) (path : String) : IO Files := do
  try
    let bytes ← IO.FS.readBinFile path
    return files.place path bytes.toList
  catch
    | .noFileOrDirectory .. => return files
    | _ => return files.place (path ++ "/") []

/-- Writes a file that a run has left, with the directories above it. -/
def save (files : Files) (path : String) : IO Unit := do
  match files.read path with
  | .error _ => return
  | .ok bytes =>
    let directory := Files.directoryOf path
    if directory != "" then IO.FS.createDirAll directory
    IO.FS.writeBinFile path (ByteArray.mk bytes.toArray)

/-- The standard input, unless a file is named. -/
def readInput (arguments : Arguments) : IO String := do
  match arguments.file with
  | none | some "" => (← IO.getStdin).readToEnd
  | some _ => return ""

/-- How the command is used. -/
def usage : String :=
  "usage: typed-markup [-h] [--document] [--config CONFIG] [--debug] [file]"

/-- The files of a run: those that its arguments and its configuration name. -/
def gather (arguments : Arguments) : IO (Files × List String) := do
  let files ← arguments.inputs.foldlM load []
  let logs := (logPath? arguments files).toList
  return (← logs.foldlM load files, logs)

/-- The time that work takes, in ten-thousandths of a second. -/
def timeOf {α : Type} (work : Unit → α) : IO Int := do
  let began ← IO.monoNanosNow
  let _ ← IO.lazyPure work
  let ended ← IO.monoNanosNow
  return ((ended - began) / 100000 : Nat)

/-- Runs the command with its parsed arguments, which `argv` gives. A run is a function and has no
clock of its own, so that it is measured before its time can be given to it. -/
def runOnDisk (argv : List String) (arguments : Arguments) : IO UInt32 := do
  let (files, logs) ← gather arguments
  let input ← readInput arguments
  let elapsed ← timeOf fun _ => run argv input files Html.backend 0
  let result := run argv input files Html.backend elapsed
  logs.forM (save result.files)
  result.console.forM fun line => IO.eprintln line
  IO.print result.output
  match result.ending with
  | .code n => return n.toUInt32
  | .exit e => return e.code.toUInt32
  | .fault f =>
    IO.eprintln f.message
    return 1

/-- Runs the command with these arguments. -/
def start (argv : List String) : IO UInt32 := do
  match parse argv with
  | .ok arguments => runOnDisk argv arguments
  | .error .helped =>
    IO.println usage
    return 0
  | .error .usage =>
    IO.eprintln usage
    return 2

end TypedMarkup.CommandLine

/-- The command. -/
def main (argv : List String) : IO UInt32 :=
  TypedMarkup.CommandLine.start argv
