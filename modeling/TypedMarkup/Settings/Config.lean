import TypedMarkup.Files
import TypedMarkup.Json.Printer
import TypedMarkup.Json.Reader
import TypedMarkup.Notice
import TypedMarkup.Settings

/-!
# Configurations

Settings with the file that they are kept in. `load` lays the file over the defaults, `save`
writes all settings, and a fault in the file leaves the defaults in force.
-/

namespace TypedMarkup

open Settings (Item Tables)

/-- Settings and the path of their file: the table that they are, among all that there are. -/
structure Config where
  path : Option String
  tables : Tables
  root : Nat
  deriving Repr

namespace Config

/-- The path of the file, if it names one. -/
def file? (c : Config) : Option String :=
  match c.path with
  | some "" => none
  | path => path

/-- What the file under a path says, and the notices on reading it. -/
def readFile (files : Files) (path : String) : Option (Entries Value) × List Notice :=
  if !files.holds path then (none, [.settingsMissing path])
  else
    match files.read path with
    | .error _ => (none, [.settingsUnreadable path])
    | .ok bytes =>
      match (Text.Utf8.decode? bytes).bind Json.parse? with
      | none => (none, [.settingsUnreadable path])
      | some (.table entries) => (some entries, [.settingsLoaded path])
      | some _ => (none, [.settingsNoTable path])

/-- New settings: the defaults. -/
def setDefaults (c : Config) : Config :=
  let (entries, tables) := c.tables.holdEntries Settings.defaults
  { c with tables := tables ++ [entries], root := tables.length }

/-- The defaults, with the file laid over them. -/
def load (c : Config) (files : Files) : Config × List Notice :=
  let c := c.setDefaults
  match c.file? with
  | none => (c, [])
  | some path =>
    match readFile files path with
    | (some entries, notices) => ({ c with tables := c.tables.merge c.root entries }, notices)
    | (none, notices) => (c, notices)

/-- What stands under a dotted key. -/
def get? (c : Config) (key : String) : Option Item :=
  c.tables.get? (Settings.keyParts key) c.root

/-- What stands under a dotted key, or a default. -/
def get (c : Config) (key : String) (default : Item) : Item :=
  (c.get? key).getD default

/-- The configuration with an item under a dotted key. -/
def set (c : Config) (key : String) (x : Item) : Config :=
  { c with tables := c.tables.set (Settings.keyParts key) x c.root }

/-- Takes out what stands under a dotted key, and tells whether there was something. -/
def remove (c : Config) (key : String) : Bool × Config :=
  match c.tables.remove? (Settings.keyParts key) c.root with
  | some tables => (true, { c with tables := tables })
  | none => (false, c)

/-- Sets items under dotted keys in turn. -/
def override (c : Config) (overrides : Entries Item) : Config :=
  overrides.foldl (fun c e => c.set e.1 e.2) c

/-- A configuration for a path, among the tables of its caller: what is loaded, and then the
overrides. -/
def make (tables : Tables) (path : Option String) (overrides : Entries Item) (files : Files) :
    Config × List Notice :=
  let (c, notices) := load ⟨path, tables ++ [[]], tables.length⟩ files
  (c.override overrides, notices ++ [.settingsReady path])

/-- The value of what stands under a dotted key, or a default. Where a table comes again within
itself, nothing is read. -/
def read (c : Config) (key : String) (default : Value) : Value :=
  match c.get? key with
  | some x => c.tables.valueWith .null x
  | none => default

/-- All settings, unless a table comes again within itself. -/
def all? (c : Config) : Option Value :=
  c.tables.value? (.table c.root)

/-- What two texts begin with. -/
def commonStart (s t : String) : String :=
  String.ofList (((s.toList.zip t.toList).takeWhile fun p => p.1 = p.2).map Prod.fst)

/-- The text that saving writes: all settings or, where a table comes again within itself, what
comes before, which is written in the same way whatever stands in its place. -/
def written (c : Config) : String :=
  match c.all? with
  | some v => Json.print v
  | none =>
    let printed (again : Value) := Json.print (c.tables.valueWith again (.table c.root))
    commonStart (printed .null) (printed (.list []))

/-- Writes all settings to the file, in directories that are made as needed. -/
def save (c : Config) (files : Files) : Except Fault Files × List Notice :=
  match c.file? with
  | none => (.ok files, [.nothingSaved])
  | some path =>
    let result := do
      let files ← files.makeDirectories (Files.directoryOf path)
      let files ← files.write path (Text.Utf8.encode c.written)
      if c.all?.isSome then .ok files else .error .circular
    match result with
    | .ok files => (.ok files, [.settingsSaved path])
    | .error fault => (.error fault, [])

/-- The files that saving leaves. Where the file itself cannot be written, the directories stay that
were made for it. -/
def filesAfterSave (c : Config) (files : Files) : Files :=
  match c.file? with
  | none => files
  | some path =>
    match files.makeDirectories (Files.directoryOf path) with
    | .error _ => files
    | .ok made =>
      match made.write path (Text.Utf8.encode c.written) with
      | .error _ => made
      | .ok written => written

end Config

end TypedMarkup
