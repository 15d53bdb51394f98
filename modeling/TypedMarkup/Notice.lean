import TypedMarkup.Fault
import TypedMarkup.Registry

/-!
# Notices

What the library tells its log. A notice says what happened; `Notice.record` gives it a level, a
logger, the place it comes from and its wording.
-/

namespace TypedMarkup

/-- The levels of log records. -/
inductive Level where
  | debug
  | info
  | warning
  | error
  | critical
  deriving Repr, DecidableEq

namespace Level

/-- The number of a level; a higher one is graver. -/
def number : Level → Nat
  | debug => 10
  | info => 20
  | warning => 30
  | error => 40
  | critical => 50

/-- The name of a level. -/
def name : Level → String
  | debug => "DEBUG"
  | info => "INFO"
  | warning => "WARNING"
  | error => "ERROR"
  | critical => "CRITICAL"

/-- Every level. -/
def all : List Level :=
  [debug, info, warning, error, critical]

/-- The level with a name, in any case. -/
def ofName? (s : String) : Option Level :=
  all.find? fun l => l.name == Text.upper s

/-- The name that records show for a level number. -/
def nameOf (n : Nat) : String :=
  if n = 0 then "NOTSET"
  else
    match all.find? fun l => l.number == n with
    | some l => l.name
    | none => "Level " ++ Nat.repr n

end Level

/-- An entry of the log. -/
structure LogRecord where
  level : Nat
  logger : String
  /-- The place in the program that the record comes from. -/
  origin : String
  message : String
  /-- The type of the node that the record is about. -/
  nodeType : Option String
  deriving Repr, DecidableEq

/-- What the library tells its log. -/
inductive Notice where
  | settingsReady (path : Option String)
  | settingsMissing (path : String)
  | settingsUnreadable (path : String)
  | settingsNoTable (path : String)
  | settingsLoaded (path : String)
  | settingsSaved (path : String)
  | nothingSaved
  | replaced (replacement : Replacement)
  | parserReady (features fallback : Value)
  | markRemoved
  | bodyMissingInFragment
  | fellBack (features : Value) (reason : String) (fallback : Value)
  | unknownNode (typeName : String)
  | bodyMissing
  | found (count : Nat) (tag : String)
  | timed (logger : String) (level : Level) (text : String)
  | neverStarted (logger name : String)
  | unreadable (path reason : String)

/-- A count of ten-thousandths of a second as a number of seconds with four places. -/
def fourPlaces (tenThousandths : Int) : String :=
  let n := tenThousandths.natAbs
  let places := Nat.repr (n % 10000)
  (if tenThousandths < 0 then "-" else "") ++ Nat.repr (n / 10000) ++ "." ++
    String.ofList (List.replicate (4 - places.length) '0') ++ places

/-- The number of seconds of a count of sixteenths; four places suffice. -/
def secondsText (sixteenths : Int) : String :=
  fourPlaces (625 * sixteenths)

/-- A path in messages. -/
def pathText : Option String → String
  | some path => path
  | none => "None"

/-- The entry that a notice makes in the log. -/
def Notice.record : Notice → LogRecord
  | settingsReady path =>
    settings .debug ("Configuration initialized (config_path: " ++ pathText path ++ ")")
  | settingsMissing path =>
    settings .debug ("Configuration file not found at " ++ path ++ ", using defaults")
  | settingsUnreadable _ => settings .error "Error loading configuration"
  | settingsNoTable path =>
    settings .error ("Configuration in " ++ path ++ " is not a JSON object, using defaults")
  | settingsLoaded path => settings .debug ("Configuration loaded from " ++ path)
  | settingsSaved path => settings .debug ("Configuration saved to " ++ path)
  | nothingSaved => settings .warning "No configuration path set, nothing saved"
  | replaced r => ⟨10, "semantic_dom.registry", "registry.py", r.message, none⟩
  | parserReady features fallback =>
    parser .debug ("HTML parser initialized (features: " ++ features.shown ++ ", fallback: " ++
      fallback.shown ++ ")")
  | markRemoved => parser .debug "Removing BOM marker from the beginning of HTML content"
  | bodyMissingInFragment =>
    parser .debug "Parsed fragment has no <body>, using the document root"
  | fellBack features reason fallback =>
    parser .warning (features.shown ++ " parser failed: " ++ reason ++ ", falling back to '" ++
      fallback.shown ++ "'")
  | unknownNode typeName =>
    ⟨30, "semantic_dom.converter.tree_converter", "tree_converter.py",
      "Unknown input node type " ++ typeName ++ ", skipped", some typeName⟩
  | bodyMissing => fragment .debug "Document has no <body>, converting nothing"
  | found count tag =>
    fragment .debug ("Found " ++ Nat.repr count ++ " <" ++ tag ++ "> elements")
  | timed logger level text => ⟨level.number, logger, "logging.py", text, none⟩
  | neverStarted logger name =>
    ⟨30, logger, "logging.py", "No start time found for " ++ name, none⟩
  | unreadable path reason =>
    ⟨40, "semantic_dom.main", "main.py", "Cannot read " ++ path ++ ": " ++ reason, none⟩
where
  settings (level : Level) (message : String) : LogRecord :=
    ⟨level.number, "semantic_dom.utils.config", "config.py", message, none⟩
  parser (level : Level) (message : String) : LogRecord :=
    ⟨level.number, "semantic_dom.parser.html_parser", "html_parser.py", message, none⟩
  fragment (level : Level) (message : String) : LogRecord :=
    ⟨level.number, "semantic_dom.converter.fragment_converter", "fragment_converter.py", message,
      none⟩

end TypedMarkup
