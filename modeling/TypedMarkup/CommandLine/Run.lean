import TypedMarkup.CommandLine.Arguments
import TypedMarkup.Conversion.Page
import TypedMarkup.Logging.Setup
import TypedMarkup.Semantic.Outline

/-!
# The command

One run of the command as a function: from the arguments, the standard input and the files to the
outline on the standard output, the lines on the console and the files left.
-/

namespace TypedMarkup.CommandLine

/-- How a run ends: with a code of its own, by the arguments, or by a fault. -/
inductive Ending where
  | code (n : Nat)
  | exit (e : Exit)
  | fault (f : Fault)
  deriving Repr, DecidableEq

/-- What a run leaves. -/
structure Result where
  ending : Ending
  output : String
  console : List String
  files : Files
  attempts : List (String × Value)

/-- The result of a run that ends at once. -/
def Result.early (ending : Ending) (files : Files) : Result :=
  ⟨ending, "", [], files, []⟩

/-- The markup that a run reads: the file that is named, or the standard input. -/
def markup (arguments : Arguments) (input : String) (files : Files) :
    Except (String × Fault) Markup.Content :=
  match arguments.file with
  | none | some "" => .ok (.text input)
  | some path =>
    match files.read path with
    | .ok bytes => .ok (.bytes bytes)
    | .error fault => .error (path, fault)

/-- The lines of the outline, each ended. -/
def written (lines : List String) : String :=
  Text.join "" (lines.map fun line => line ++ "\n")

/-- Converts markup: the report on the trees to outline. The time that this takes is given. -/
def convert (arguments : Arguments) (pc : PageConverter) (content : Markup.Content)
    (elapsed : Int) : Report (List Tree) :=
  if arguments.document then
    let report := pc.convertDocument (.content content) [] elapsed
    { report with result := report.result.map Option.toList }
  else pc.convertFragment content [] elapsed

/-- The files that a run reads by its arguments. -/
def Arguments.inputs (arguments : Arguments) : List String :=
  (arguments.config.toList ++ arguments.file.toList).filter (· != "")

/-- The log file that a run writes, by the configuration that its arguments name. -/
def logPath? (arguments : Arguments) (files : Files) : Option String :=
  match (Config.make [] arguments.config [] files).1.read "logging.log_file" .null with
  | .text path => if path = "" then none else some path
  | _ => none

/-- Runs the command. The time that the conversion takes is given, in ten-thousandths of a second. -/
def run (argv : List String) (input : String) (files : Files) (backend : Markup.Backend)
    (elapsed : Int) : Result :=
  match parse argv with
  | .error e => .early (.exit e) files
  | .ok arguments =>
    let (config, _) := Config.make [] arguments.config [] files
    let level := if arguments.debug then .text "DEBUG"
      else config.read "logging.console_level" (.text "WARNING")
    let request : Logging.Request :=
      { Logging.Request.default with
        logFile := config.read "logging.log_file" .null, consoleLevel := level }
    let setUp := Logging.setUp request [] files
    match setUp.result with
    | .error fault => .early (.fault fault) setUp.files
    | .ok _ =>
      match markup arguments input setUp.files with
      | .error (path, fault) =>
        let notice := Notice.unreadable path fault.message
        let out := Logging.emit setUp.loggers [notice.record] setUp.files
        ⟨.code 1, "", out.console, out.files, []⟩
      | .ok content =>
        let pc := PageConverter.make config Registry.empty backend
        let report := convert arguments pc content elapsed
        let notices := pc.source.ready :: report.notices
        let out := Logging.emit setUp.loggers (notices.map Notice.record) setUp.files
        match report.result.bind fun trees => Outline.write trees 0 with
        | .error fault => ⟨.fault fault, "", out.console, out.files, report.attempts⟩
        | .ok lines => ⟨.code 0, written lines, out.console, out.files, report.attempts⟩

end TypedMarkup.CommandLine
