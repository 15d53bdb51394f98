import TypedMarkup.Proofs.Files
import TypedMarkup.Proofs.Json.RoundTrip
import TypedMarkup.Proofs.Settings.Nested
import TypedMarkup.Proofs.Settings.Paths

/-!
# Saved settings

What is loaded after a configuration has been saved: the defaults, with all the saved settings laid
over them (`all?_load_of_save`). The file that was saved says exactly these settings
(`readFile_of_save`), because every configuration that is brought about by loading, setting and
removing has distinct names (`sound_editAll`), whatever files there were and whatever tables are
shared. Only a table that stands within itself has no value that a file could say.

`reload_saved` says when saving succeeds, key by key what this comes to, and when the saved settings
are back.
-/

namespace TypedMarkup.Config

open Settings (Item Tables getAt blockedAt overlay merge defaults isProper_defaults)
open Value (same)

variable {c : Config} {files before after : Files} {notices : List Notice}
  {settings : Entries Value}

/-! ## Loading -/

/-- What a file says has distinct names. -/
theorem isProper_of_readFile {path : String} {entries : Entries Value}
    (h : readFile files path = (some entries, notices)) : (Value.table entries).IsProper := by
  unfold readFile at h
  split at h
  · simp at h
  split at h
  · simp at h
  split at h
  · simp at h
  · rename_i hparse
    obtain ⟨text, -, hparse⟩ := Option.bind_eq_some_iff.mp hparse
    rw [← Option.some.inj (Prod.mk.inj h).1]
    exact Json.isProper_of_parse? hparse
  · simp at h

/-- The entries that loading lays over the defaults: those that the file says, if it says any. -/
def loaded (c : Config) (files : Files) : Entries Value :=
  match c.file? with
  | none => []
  | some path => (readFile files path).1.getD []

theorem isProper_loaded (c : Config) (files : Files) :
    (Value.table (c.loaded files)).IsProper := by
  unfold loaded
  split
  · exact Settings.isProper_empty
  · cases h : (readFile files _).1 with
    | none => exact Settings.isProper_empty
    | some entries => exact isProper_of_readFile (Prod.ext h rfl)

theorem load_eq (c : Config) (files : Files) :
    (c.load files).1 = { c.setDefaults with
      tables := c.setDefaults.tables.merge c.setDefaults.root (c.loaded files) } := by
  have hfile : c.setDefaults.file? = c.file? := rfl
  simp only [load, loaded, hfile]
  cases c.file? with
  | none => rfl
  | some path =>
    dsimp only
    generalize readFile files path = result
    rcases result with ⟨_ | entries, notices⟩ <;> rfl

theorem path_load (c : Config) (files : Files) : (c.load files).1.path = c.path := by
  rw [load_eq]
  rfl

/-- The defaults are new tables. -/
theorem setDefaults_eq (c : Config) :
    c.setDefaults.tables = (c.tables.hold (.table defaults)).2 ∧
      .table c.setDefaults.root = (c.tables.hold (.table defaults)).1 := by
  rw [Settings.Tables.hold]
  exact ⟨rfl, rfl⟩

/-- What is loaded are new tables: the defaults with the file laid over them. -/
theorem nests_load (c : Config) (files : Files) :
    (c.load files).1.tables.Nests (.table (merge defaults (c.loaded files)))
      (.table (c.load files).1.root) := by
  obtain ⟨htables, hroot⟩ := c.setDefaults_eq
  have hdefaults := Settings.Tables.nests_hold (.table defaults) c.tables
  rw [← htables, ← hroot] at hdefaults
  rw [load_eq]
  exact hdefaults.merge (c.loaded files)

theorem all?_load (c : Config) (files : Files) :
    (c.load files).1.all? = some (.table (merge defaults (c.loaded files))) :=
  Settings.Tables.value?_of_nests (nests_load c files)

/-- Whatever files there are, what is loaded is sound. -/
theorem sound_load (hc : c.tables.Sound) (files : Files) : (c.load files).1.Sound := by
  obtain ⟨htables, -⟩ := c.setDefaults_eq
  obtain ⟨ids, -, hholds⟩ := nests_load c files
  have hroot := hholds.lt_length
  refine ⟨?_, ?_⟩
  · rw [load_eq]
    refine Settings.Tables.sound_merge _ _ ?_ (isProper_loaded c files).2
    rw [htables]
    exact (Settings.Tables.sound_hold _ hc isProper_defaults).1
  · cases hholds with
    | table there inside => exact Settings.Tables.lt_of_getElem? there

/-! ## Edits -/

/-- What a caller does: it makes a new value, sets an item that there is, or removes one. -/
inductive Edit where
  | new (value : Value)
  | set (key : String) (x : Item)
  | remove (key : String)

/-- Whether there is what a caller sets; a new value has distinct names. -/
def Edit.Fits (c : Config) : Edit → Prop
  | new value => value.IsProper
  | set _ x => x.Within c.tables.length
  | remove _ => True

/-- The configuration after an edit. -/
def edit (c : Config) : Edit → Config
  | .new value => { c with tables := (c.tables.hold value).2 }
  | .set key x => c.set key x
  | .remove key => (c.remove key).2

/-- The configuration after several edits. -/
def editAll (c : Config) (edits : List Edit) : Config :=
  edits.foldl edit c

/-- Whether each of several edits fits when its turn comes. -/
def AllFit : Config → List Edit → Prop
  | _, [] => True
  | c, e :: edits => e.Fits c ∧ AllFit (c.edit e) edits

theorem path_edit (c : Config) (e : Edit) : (c.edit e).path = c.path := by
  cases e with
  | new value => rfl
  | set key x => rfl
  | remove key => rcases c.remove_cases key with ⟨left, -, h⟩ | ⟨-, h⟩ <;> rw [edit, h]

theorem path_editAll (c : Config) (edits : List Edit) : (c.editAll edits).path = c.path := by
  induction edits generalizing c with
  | nil => rfl
  | cons e edits ih => exact (ih (c.edit e)).trans (path_edit c e)

/-- An edit keeps a configuration sound. -/
theorem sound_edit (hc : c.Sound) {e : Edit} (he : e.Fits c) : (c.edit e).Sound := by
  cases e with
  | new value =>
    exact ⟨(Settings.Tables.sound_hold value hc.tables he).1,
      Nat.lt_of_lt_of_le hc.root (Settings.Tables.length_hold c.tables value)⟩
  | set key x => exact sound_set hc key he
  | remove key => exact sound_remove hc key

theorem sound_editAll (hc : c.Sound) {edits : List Edit} (he : c.AllFit edits) :
    (c.editAll edits).Sound := by
  induction edits generalizing c with
  | nil => exact hc
  | cons e edits ih => exact ih (sound_edit hc he.1) he.2

/-! ## Saving -/

/-- All settings are a table. -/
theorem exists_table_of_all? {v : Value} (h : c.all? = some v) : ∃ s, v = .table s := by
  rw [all?, Settings.Tables.value?, Settings.Tables.itemValue?, Settings.Tables.tableValue?] at h
  split at h
  · exact absurd h (by simp)
  · obtain ⟨entries, -, h⟩ := Option.bind_eq_some_iff.mp h
    obtain ⟨values, -, h⟩ := Option.bind_eq_some_iff.mp h
    exact ⟨values, (Option.some.inj h).symm⟩

theorem written_eq {v : Value} (h : c.all? = some v) : c.written = Json.print v := by
  rw [written, h]

/-- Saving writes all settings, if no table stands within itself, into a directory that is made as
needed. -/
theorem save_eq_ok {path : String} (hpath : c.file? = some path) :
    c.save before = (.ok after, notices) ↔
      notices = [.settingsSaved path] ∧ ∃ s, c.all? = some (.table s) ∧
        ∃ made, before.makeDirectories (Files.directoryOf path) = .ok made ∧
          made.write path (Text.Utf8.encode (Json.print (.table s))) = .ok after := by
  simp only [save, hpath, bind, Except.bind]
  cases before.makeDirectories (Files.directoryOf path) with
  | error fault => simp
  | ok made =>
    cases hall : c.all? with
    | none => cases hwrite : made.write path (Text.Utf8.encode c.written) <;> simp [hwrite]
    | some v =>
      obtain ⟨s, rfl⟩ := exists_table_of_all? hall
      rw [written_eq hall]
      cases hwrite : made.write path (Text.Utf8.encode (Json.print (.table s))) with
      | error fault => simp [hwrite]
      | ok written => simp [hwrite, and_comm, eq_comm]

/-- Saving succeeds just when the path takes a file and no table stands within itself. -/
theorem save_succeeds_iff {path : String} (hpath : c.file? = some path) (before : Files) :
    (∃ after notices, c.save before = (.ok after, notices)) ↔
      before.Takes path ∧ c.all?.isSome = true := by
  constructor
  · rintro ⟨after, notices, h⟩
    obtain ⟨-, s, hall, made, hmake, hwrite⟩ := (save_eq_ok hpath).mp h
    exact ⟨(Files.takes_iff path _).mp ⟨made, after, hmake, hwrite⟩, by rw [hall]; rfl⟩
  · rintro ⟨htakes, hall⟩
    obtain ⟨v, hall⟩ := Option.isSome_iff_exists.mp hall
    obtain ⟨s, rfl⟩ := exists_table_of_all? hall
    obtain ⟨made, after, hmake, hwrite⟩ := (Files.takes_iff path _).mpr htakes
    exact ⟨after, _, (save_eq_ok hpath).mpr ⟨rfl, s, hall, made, hmake, hwrite⟩⟩

/-- A file that was saved says the settings that were saved. -/
theorem readFile_of_save {path : String} (hpath : c.file? = some path)
    (hall : c.all? = some (.table settings)) (hp : (Value.table settings).IsProper)
    (h : c.save before = (.ok after, notices)) :
    readFile after path = (some settings, [.settingsLoaded path]) := by
  obtain ⟨-, s, hs, made, -, hwrite⟩ := (save_eq_ok hpath).mp h
  obtain rfl := Value.table.inj (Option.some.inj (hall.symm.trans hs))
  obtain ⟨hholds, hread⟩ := Files.read_of_write hwrite
  simp only [readFile, hholds, hread, Text.Utf8.decode?_encode, Option.bind_some,
    Json.parse?_print hp]
  rfl

theorem loaded_of_save {path : String} (hpath : c.file? = some path)
    (hall : c.all? = some (.table settings)) (hp : (Value.table settings).IsProper)
    (h : c.save before = (.ok after, notices)) {d : Config} (hd : d.path = c.path) :
    d.loaded after = settings := by
  have hfile : d.file? = some path := by rw [← hpath, file?, file?, hd]
  simp only [loaded, hfile, readFile_of_save hpath hall hp h, Option.getD_some]

/-- After saving, the defaults are loaded with all the saved settings laid over them. -/
theorem all?_load_of_save {path : String} (hpath : c.file? = some path) (hc : c.Sound)
    (hall : c.all? = some (.table settings)) (h : c.save before = (.ok after, notices)) (d : Config)
    (hd : d.path = c.path) :
    (d.load after).1.all? = some (.table (merge defaults settings)) := by
  have hp := Settings.Tables.isProper_of_value? hc.tables hall
  rw [all?_load, loaded_of_save hpath hall hp h hd]

/-! ## Main statement -/

/-- What loading makes of the settings that were saved. -/
structure Restored (saved loaded : Entries Value) : Prop where
  /-- A saved value that is no table is there as it was. -/
  values : ∀ parts v, getAt parts saved = some v → (∀ entries, v ≠ .table entries) →
    getAt parts loaded = some v
  /-- A saved table is there, completed by the default under the same key if this is a table. -/
  tables : ∀ parts entries, getAt parts saved = some (.table entries) →
    getAt parts loaded = some (overlay (getAt parts defaults) (.table entries))
  /-- A key that nothing was saved under takes its default, or nothing where there is none or where
  a saved value that is no table is in the way. -/
  missing : ∀ parts, getAt parts saved = none →
    getAt parts loaded = if blockedAt parts saved = true then none else getAt parts defaults
  /-- All settings are as they were just when no default was missing. -/
  same_iff : same (.table loaded) (.table saved) = true ↔
    ∀ parts, (getAt parts defaults).isSome = true →
      (getAt parts saved).isSome = true ∨ blockedAt parts saved = true

theorem restored_merge {saved : Entries Value} (hp : (Value.table saved).IsProper) :
    Restored saved (merge defaults saved) := by
  have hget := fun parts => Settings.getAt_merge parts defaults saved hp
  refine ⟨fun parts v hv hno => ?_, fun parts entries hv => ?_, fun parts hv => ?_,
    Settings.same_merge_iff isProper_defaults hp⟩
  · rw [hget, hv]
    exact congrArg some (Settings.overlay_of_not_table _ hno)
  · rw [hget, hv]
  · rw [hget, hv]

/-- A configuration with a file, brought by any edits from what is loaded for it. Saving it succeeds
just when its path takes a file and no table of it stands within itself. Once it has been saved,
loading it again gives the defaults with the saved settings laid over them, and so does a new
configuration for its path. -/
theorem reload_saved {path : String} (hpath : c.file? = some path) (hc : c.tables.Sound)
    (files : Files) {edits : List Edit} (he : (c.load files).1.AllFit edits) {saved : Config}
    (hsaved : (c.load files).1.editAll edits = saved) (before : Files) :
    ((∃ after notices, saved.save before = (.ok after, notices)) ↔
      before.Takes path ∧ saved.all?.isSome = true) ∧
      ∀ after notices, saved.save before = (.ok after, notices) →
        ∃ settings, saved.all? = some (.table settings) ∧
          (saved.load after).1.all? = some (.table (merge defaults settings)) ∧
          (∀ tables, (make tables c.path [] after).1.all? =
            some (.table (merge defaults settings))) ∧
          Restored settings (merge defaults settings) := by
  have hsound : saved.Sound := hsaved ▸ sound_editAll (sound_load hc files) he
  have hsame : saved.path = c.path := by rw [← hsaved, path_editAll, path_load]
  have hfile : saved.file? = some path := by rw [← hpath, file?, file?, hsame]
  refine ⟨save_succeeds_iff hfile before, fun after notices hsave => ?_⟩
  obtain ⟨-, settings, hall, -⟩ := (save_eq_ok hfile).mp hsave
  have hload := all?_load_of_save hfile hsound hall hsave
  refine ⟨settings, hall, hload saved rfl, fun tables => hload _ hsame.symm, restored_merge ?_⟩
  exact Settings.Tables.isProper_of_value? hsound.tables hall

/-- A configuration for a file in a directory that is not there yet. -/
def bare : Config :=
  ⟨some "nested/config.json", [[]], 0⟩

/-- A default changed, a new setting and its table under a second key, a new table twice in a list,
and a default removed. -/
def bareEdits : List Edit :=
  [.set "logging.console_level" (.text "DEBUG"), .set "extra.level" (.int 3),
    .set "backup" (.table 5), .new (.table [("x", .null)]),
    .set "more" (.list [.table 6, .table 6]), .remove "parser.features"]

/-- The configuration after these edits. -/
def nested : Config :=
  (bare.load []).1.editAll bareEdits

/-- The settings then. -/
def nestedSettings : Entries Value :=
  [("parser", .table [("fallback_features", .text "html.parser")]),
    ("converter", .table [("report_unknown_nodes", .bool true)]),
    ("logging", .table [("console_level", .text "DEBUG"), ("log_file", .null)]),
    ("extra", .table [("level", .int 3)]), ("backup", .table [("level", .int 3)]),
    ("more", .list [.table [("x", .null)], .table [("x", .null)]])]

/-- The files after it has been saved. -/
def nestedFiles : Files :=
  [(["nested"], .directory), (["nested", "config.json"],
    .file (Text.Utf8.encode (Json.print (.table nestedSettings))))]

theorem reload_saved_nested :
    bare.file? = some "nested/config.json" ∧ bare.tables.Sound ∧
      (bare.load []).1.AllFit bareEdits ∧ (bare.load []).1.editAll bareEdits = nested ∧
      nested.all? = some (.table nestedSettings) ∧
      nested.save [] = (.ok nestedFiles, [.settingsSaved "nested/config.json"]) ∧
      (nested.load nestedFiles).1.all? = some (.table (merge defaults nestedSettings)) ∧
      (make [] bare.path [] nestedFiles).1.all? =
        some (.table (merge defaults nestedSettings)) ∧
      Restored nestedSettings (merge defaults nestedSettings) := by
  have hpath : bare.file? = some "nested/config.json" := rfl
  have hsound : bare.tables.Sound := Settings.Tables.sound_append_empty Settings.Tables.sound_nil
  have hfive : 5 < (((bare.load []).1.editAll (bareEdits.take 2)).tables).length := by decide
  have hsix : 6 < (((bare.load []).1.editAll (bareEdits.take 4)).tables).length := by decide
  have hnew : (Value.table [("x", .null)]).IsProper := by
    simp [Value.IsProper, Value.EntriesProper]
  have hfit : (bare.load []).1.AllFit bareEdits :=
    ⟨trivial, trivial, hfive, hnew, ⟨hsix, hsix, trivial⟩, trivial, trivial⟩
  have hedited : (bare.load []).1.editAll bareEdits = nested := rfl
  have hsave : nested.save [] = (.ok nestedFiles, [.settingsSaved "nested/config.json"]) := rfl
  have hthere : nested.all? = some (.table nestedSettings) := rfl
  obtain ⟨settings, hall, hload, hmake, hrestored⟩ :=
    (reload_saved hpath hsound [] hfit hedited []).2 nestedFiles _ hsave
  obtain rfl := Value.table.inj (Option.some.inj (hthere.symm.trans hall))
  exact ⟨hpath, hsound, hfit, hedited, hall, hsave, hload, hmake [], hrestored⟩

/-- A configuration that a default has been removed from. -/
def lacking : Config :=
  (load ⟨some "c.json", [[]], 0⟩ []).1.editAll [.remove "parser.features"]

/-- Its settings. -/
def lackingSettings : Entries Value :=
  [("parser", .table [("fallback_features", .text "html.parser")]),
    ("converter", .table [("report_unknown_nodes", .bool true)]),
    ("logging", .table [("console_level", .text "WARNING"), ("log_file", .null)])]

/-- The files after it has been saved. -/
def lackingFiles : Files :=
  [(["c.json"], .file (Text.Utf8.encode (Json.print (.table lackingSettings))))]

/-- A default that was removed is there again after saving and loading, so that the settings are not
the saved ones. -/
theorem removed_default_returns :
    lacking.all? = some (.table lackingSettings) ∧
      lacking.save [] = (.ok lackingFiles, [.settingsSaved "c.json"]) ∧
      getAt ["parser", "features"] lackingSettings = none ∧
      ∃ settings, (lacking.load lackingFiles).1.all? = some (.table settings) ∧
        getAt ["parser", "features"] settings = some (.text "html5lib") ∧
        same (.table settings) (.table lackingSettings) = false := by
  have hall : lacking.all? = some (.table lackingSettings) := rfl
  have hsave : lacking.save [] = (.ok lackingFiles, [.settingsSaved "c.json"]) := rfl
  have htables : Settings.Tables.Sound [[]] :=
    Settings.Tables.sound_append_empty Settings.Tables.sound_nil
  have hsound : lacking.Sound := sound_editAll (sound_load htables []) ⟨trivial, trivial⟩
  have hback : getAt ["parser", "features"] (merge defaults lackingSettings) =
      some (.text "html5lib") := rfl
  exact ⟨hall, hsave, rfl, _, all?_load_of_save rfl hsound hall hsave lacking rfl, hback,
    by decide +kernel⟩

end TypedMarkup.Config
