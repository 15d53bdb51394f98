import TypedMarkup.Files
import TypedMarkup.Logging.Template

/-!
# Loggers

Loggers have names with dots, a level and handlers; a record goes to the handlers of its logger
and of every logger above it. `setUp` gives a logger its handlers, once: a console and, if asked, a
file. `emit` says what a record adds to the console and to the files.
-/

namespace TypedMarkup.Logging

/-- Where a handler writes. -/
inductive Sink where
  | console
  | file (path : String)
  deriving Repr, DecidableEq

/-- A handler takes the records from its level on. -/
structure Handler where
  sink : Sink
  level : Nat
  deriving Repr, DecidableEq

/-- What is set of a logger; level 0 is no level. -/
structure LoggerState where
  level : Nat
  handlers : List Handler
  deriving Repr, DecidableEq

/-- The loggers that something is set of. -/
abbrev Loggers := Entries LoggerState

/-- The name of the logger above all of this library. -/
def rootName : String := "semantic_dom"

/-- What is set of a logger. -/
def Loggers.state (loggers : Loggers) (name : String) : LoggerState :=
  (Entries.find? name loggers).getD ⟨0, []⟩

/-- What a caller asks of `setUp`. -/
structure Request where
  logFile : Value
  consoleLevel : Value
  fileLevel : Value
  component : Value

/-- The request that asks for nothing in particular. -/
def Request.default : Request :=
  ⟨.null, .text "INFO", .text "DEBUG", .null⟩

/-- The number of the level that a value names, or a default. -/
def levelNumber (default : Level) : Value → Except Fault Nat
  | .text s => .ok ((Level.ofName? s).getD default).number
  | _ => .error .noSuchMember

/-- The name of the logger that a request is for. -/
def Request.loggerName (r : Request) : String :=
  if r.component.isTruthy then rootName ++ "." ++ r.component.shown else rootName

/-- The path of the log file that a request asks for. -/
def Request.path? (r : Request) : Except Fault (Option String) :=
  match r.logFile with
  | .text "" => .ok none
  | .text path => .ok (some path)
  | v => if v.isTruthy then .error .notText else .ok none

/-- What setting up leaves, also when it fails. -/
structure SetUp where
  result : Except Fault String
  loggers : Loggers
  files : Files

/-- Gives a logger its level and handlers, unless it has handlers. The level and the console are in
force before the file is opened, and stay so when that fails. -/
def setUp (r : Request) (loggers : Loggers) (files : Files) : SetUp :=
  let name := r.loggerName
  let state := loggers.state name
  if !state.handlers.isEmpty then ⟨.ok name, loggers, files⟩
  else
    match levelNumber .info r.consoleLevel, levelNumber .debug r.fileLevel with
    | .error fault, _ | _, .error fault => ⟨.error fault, loggers, files⟩
    | .ok consoleLevel, .ok fileLevel =>
      let level := if r.logFile.isTruthy then min consoleLevel fileLevel else consoleLevel
      let state : LoggerState := ⟨level, [⟨.console, consoleLevel⟩]⟩
      let loggers := Entries.put name state loggers
      match r.path? with
      | .error fault => ⟨.error fault, loggers, files⟩
      | .ok none => ⟨.ok name, loggers, files⟩
      | .ok (some path) =>
        match files.makeDirectories (Files.directoryOf path) with
        | .error fault => ⟨.error fault, loggers, files⟩
        | .ok files =>
          match files.append path [] with
          | .error fault => ⟨.error fault, loggers, files⟩
          | .ok files =>
            let state := { state with handlers := state.handlers ++ [⟨.file path, fileLevel⟩] }
            ⟨.ok name, Entries.put name state loggers, files⟩

/-- The names of a logger and of those above it, from the logger up. -/
def lineage (name : String) : List String :=
  let parts := Text.split '.' name
  (List.range parts.length).map fun k => Text.join "." (parts.take (parts.length - k))

/-- The level that a logger works at: its own or the nearest one above it that is set. -/
def effectiveLevel (loggers : Loggers) (name : String) : Nat :=
  match (lineage name).find? fun n => (loggers.state n).level != 0 with
  | some n => (loggers.state n).level
  | none => Level.warning.number

/-- The line that a handler writes for a record. -/
def lineFor (r : LogRecord) : Sink → String
  | .console =>
    colored r ("[" ++ Level.nameOf r.level ++ "] " ++ r.logger ++ ": " ++ r.message)
  | .file _ =>
    "[" ++ Level.nameOf r.level ++ "] " ++ r.logger ++ " (" ++ r.origin ++ "): " ++ r.message

/-- Where a record goes: the sinks that take it, nearest logger first. -/
def deliveries (loggers : Loggers) (r : LogRecord) : List Sink :=
  if r.level = 0 || r.level < effectiveLevel loggers r.logger then []
  else
    (lineage r.logger).flatMap fun n =>
      ((loggers.state n).handlers.filter fun h => h.level ≤ r.level).map Handler.sink

/-- What emitting records leaves: the lines on the console, and the files. -/
structure Emitted where
  console : List String
  files : Files

/-- Writes a record to one sink. -/
def writeTo (r : LogRecord) (out : Emitted) (sink : Sink) : Emitted :=
  match sink with
  | .console => { out with console := out.console ++ [lineFor r sink] }
  | .file path =>
    match out.files.append path (Text.Utf8.encode (lineFor r sink ++ "\n")) with
    | .ok files => { out with files := files }
    | .error _ => out

/-- Emits records in turn. -/
def emit (loggers : Loggers) (records : List LogRecord) (files : Files) : Emitted :=
  records.foldl (fun out r => (deliveries loggers r).foldl (writeTo r) out) ⟨[], files⟩

end TypedMarkup.Logging
