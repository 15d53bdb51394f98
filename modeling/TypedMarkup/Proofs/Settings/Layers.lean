import TypedMarkup.Proofs.Settings.RoundTrip

/-!
# Layers of settings

Laying a table over another, value by value and again. Of the values that are no tables, all of the
upper table are in the result, and those of the lower one where the upper table has nothing and
only tables on the way (`ClearWay`). Laying the upper table over the result once more changes
nothing, and laying the result over the lower table gives the result. So a configuration that was
loaded over the defaults is the same after any saving and loading.

* `merge_eq_self`: when a table laid over another changes nothing;
* `overlay_self`, `overlay_again`, `overlay_overlay`: the laws of one value over another, each by
  induction on the upper one;
* `all?_useFileAll`: what is loaded stays through all uses of the file;
* `merge_layers`: the main statement, about tables as settings hold them.
-/

namespace TypedMarkup

/-! ## Paths in values -/

namespace Value

/-- What the names of a path lead to from a value, each from a table to what stands under it. -/
def at? : List String → Value → Option Value
  | [], v => some v
  | name :: rest, .table entries => (Entries.find? name entries).bind (at? rest)
  | _ :: _, _ => none

theorem at?_table (name : String) (rest : List String) (s : Entries Value) :
    at? (name :: rest) (.table s) = (Entries.find? name s).bind (at? rest) := rfl

end Value

namespace Settings

variable {name : String} {v : Value} {old : Option Value} {s target source : Entries Value}

/-- Only a table lets a path of several names go on; one that is missing is as good as empty. -/
theorem at?_cons {rest : List String} (name : String) (h : rest ≠ []) (s : Entries Value) :
    Value.at? (name :: rest) (.table s) =
      Value.at? rest (.table ((inner? name s).getD [])) := by
  obtain ⟨next, rest, rfl⟩ := List.exists_cons_of_ne_nil h
  rw [Value.at?_table, inner?]
  cases Entries.find? name s with
  | none => rfl
  | some v => cases v <;> rfl

theorem getAt_eq_at? : (parts : List String) → (s : Entries Value) → parts ≠ [] →
    getAt parts s = Value.at? parts (.table s)
  | [name], s, _ => by
    rw [getAt, Value.at?_table]
    cases Entries.find? name s <;> rfl
  | name :: next :: rest, s, _ => by
    rw [getAt_cons, at?_cons name (List.cons_ne_nil _ _)]
    cases inner? name s with
    | none => rfl
    | some inner => exact getAt_eq_at? (next :: rest) inner (List.cons_ne_nil _ _)

/-! ## Names -/

/-- Laying a table over another puts its entries in turn, each over what the other has. -/
theorem merge_eq_putAll (target : Entries Value) (hs : source.names.Nodup) :
    merge target source =
      target.putAll (source.map fun e => (e.1, overlay (Entries.find? e.1 target) e.2)) := by
  unfold merge
  induction source generalizing target with
  | nil => rfl
  | cons e rest ih =>
    obtain ⟨he, hs⟩ := List.nodup_cons.mp hs
    rw [mergeEntries, ih _ hs, List.map_cons, Entries.putAll, Entries.putAll, List.foldl_cons]
    congr 1
    refine List.map_congr_left fun d hd => ?_
    -- the first name does not come again, so what is put under it is not seen
    have hne : d.1 ≠ e.1 := fun h => he (h ▸ List.mem_map_of_mem hd)
    rw [Entries.find?_put, if_neg hne]

/-- The names of the lower table come first, and then the new ones. -/
theorem names_merge (target : Entries Value) (hs : source.names.Nodup) :
    (merge target source).names =
      target.names ++ source.names.filter fun n => n ∉ target.names := by
  have hnames : Entries.names (source.map fun e =>
      (e.1, overlay (Entries.find? e.1 target) e.2)) = source.names := by
    simp [Entries.names]
  rw [merge_eq_putAll target hs, Entries.names_putAll _ (hnames ▸ hs), hnames]

/-! ## Laws -/

/-- A table laid over another changes nothing when each of its values changes nothing. -/
theorem merge_eq_self (ht : target.names.Nodup) (hs : source.names.Nodup)
    (h : ∀ n v, Entries.find? n source = some v →
      ∃ w, Entries.find? n target = some w ∧ overlay (some w) v = w) :
    merge target source = target := by
  refine Entries.ext_of_names ht ?_ fun n => ?_
  · have hnew : source.names.filter (fun n => n ∉ target.names) = [] := by
      refine List.filter_eq_nil_iff.mpr fun n hn => ?_
      obtain ⟨v, hv⟩ := Option.isSome_iff_exists.mp (Entries.isSome_find?_iff.mpr hn)
      obtain ⟨w, hw, -⟩ := h n v hv
      simpa using Entries.isSome_find?_iff.mp (Option.isSome_of_eq_some hw)
    rw [names_merge target hs, hnew, List.append_nil]
  · rw [find?_merge target hs]
    cases hv : Entries.find? n source with
    | none => rfl
    | some v =>
      obtain ⟨w, hw, hover⟩ := h n v hv
      simp only [hw, hover]

/-- What is no table gives way to anything. -/
theorem overlay_of_old_not_table (h : ∀ inner, old ≠ some (.table inner)) (v : Value) :
    overlay old v = v := by
  cases v with
  | table entries =>
    unfold overlay
    split
    · exact absurd rfl (h _)
    · rfl
  | _ => rfl

theorem overlay_table (inner entries : Entries Value) :
    overlay (some (.table inner)) (.table entries) = .table (merge inner entries) := rfl

/-- A value over itself. -/
theorem overlay_self (hv : v.IsProper) : overlay (some v) v = v := by
  induction v using Value.induction_on_tables with
  | step v ih =>
    cases v with
    | table entries =>
      rw [overlay_table, Value.table.injEq]
      refine merge_eq_self hv.nodup hv.nodup fun n v hn => ⟨v, hn, ?_⟩
      exact ih entries n v rfl hn (hv.find? hn)
    | _ => rfl

/-- A value once more over what came of it. -/
theorem overlay_again (hold : ∀ w ∈ old, w.IsProper) (hv : v.IsProper) :
    overlay (some (overlay old v)) v = overlay old v := by
  induction v using Value.induction_on_tables generalizing old with
  | step v ih =>
    by_cases htable : ∃ inner, old = some (.table inner)
    swap
    · rw [overlay_of_old_not_table (not_exists.mp htable), overlay_self hv]
    obtain ⟨inner, rfl⟩ := htable
    cases v with
    | table entries =>
      have hinner := hold _ rfl
      have hmerge := isProper_merge hinner hv
      rw [overlay_table, overlay_table, Value.table.injEq]
      refine merge_eq_self hmerge.nodup hv.nodup fun n v hn =>
        ⟨overlay (Entries.find? n inner) v, ?_, ?_⟩
      · rw [find?_merge inner hv.nodup, hn]
      · exact ih entries n v rfl hn (fun w hw => hinner.find? hw) (hv.find? hn)
    | _ => rfl

/-- What came of a value over another, over that other one. -/
theorem overlay_overlay (hold : ∀ w ∈ old, w.IsProper) (hv : v.IsProper) :
    overlay old (overlay old v) = overlay old v := by
  induction v using Value.induction_on_tables generalizing old with
  | step v ih =>
    by_cases htable : ∃ inner, old = some (.table inner)
    swap
    · rw [overlay_of_old_not_table (not_exists.mp htable),
        overlay_of_old_not_table (not_exists.mp htable)]
    obtain ⟨inner, rfl⟩ := htable
    cases v with
    | table entries =>
      have hinner := hold _ rfl
      have hmerge := isProper_merge hinner hv
      rw [overlay_table, overlay_table, Value.table.injEq]
      refine Entries.ext_of_names hmerge.nodup ?_ fun n => ?_
      · rw [names_merge inner hmerge.nodup, names_merge inner hv.nodup, List.filter_append]
        simp
      · rw [find?_merge inner hmerge.nodup, find?_merge inner hv.nodup]
        cases hn : Entries.find? n entries with
        | some v =>
          exact congrArg some (ih entries n v rfl hn (fun w hw => hinner.find? hw) (hv.find? hn))
        | none =>
          cases hw : Entries.find? n inner with
          | none => rfl
          | some w => exact congrArg some (overlay_self (hinner.find? hw))
    | _ => rfl

theorem merge_again (ht : (Value.table target).IsProper) (hs : (Value.table source).IsProper) :
    merge (merge target source) source = merge target source := by
  have hold : ∀ w ∈ some (Value.table target), w.IsProper := fun w hw => Option.some.inj hw ▸ ht
  exact Value.table.inj (overlay_again hold hs)

theorem merge_merge (ht : (Value.table target).IsProper) (hs : (Value.table source).IsProper) :
    merge target (merge target source) = merge target source := by
  have hold : ∀ w ∈ some (Value.table target), w.IsProper := fun w hw => Option.some.inj hw ▸ ht
  exact Value.table.inj (overlay_overlay hold hs)

/-! ## Values that are no tables -/

/-- Whatever a path leads over before its end is a table. -/
def ClearWay (parts : List String) (s : Entries Value) : Prop :=
  ∀ above w, above <+: parts → above ≠ parts → Value.at? above (.table s) = some w →
    ∃ entries, w = .table entries

/-- A way is clear when its first name leads nowhere, or to a table where the rest of it is. -/
theorem clearWay_cons {rest : List String} (hrest : rest ≠ []) :
    ClearWay (name :: rest) s ↔
      Entries.find? name s = none ∨ ∃ inner, inner? name s = some inner ∧ ClearWay rest inner := by
  constructor
  · intro h
    cases hv : Entries.find? name s with
    | none => exact .inl rfl
    | some v =>
      obtain ⟨inner, rfl⟩ := h [name] v (List.cons_prefix_cons.mpr ⟨rfl, List.nil_prefix⟩)
        (fun e => hrest (List.cons.inj e).2.symm) (by rw [Value.at?_table, hv]; rfl)
      refine .inr ⟨inner, inner?_eq_some.mpr hv, fun above w hp hne hw => ?_⟩
      exact h (name :: above) w (List.cons_prefix_cons.mpr ⟨rfl, hp⟩)
        (fun e => hne (List.cons.inj e).2) (by rw [Value.at?_table, hv]; exact hw)
  · intro h above w hp hne hw
    rcases List.prefix_cons_iff.mp hp with rfl | ⟨t, rfl, ht⟩
    · exact ⟨s, (Option.some.inj hw).symm⟩
    rw [Value.at?_table] at hw
    rcases h with hnone | ⟨inner, hinner, hclear⟩
    · rw [hnone] at hw
      exact absurd hw (by simp)
    · rw [inner?_eq_some.mp hinner] at hw
      exact hclear t w ht (fun e => hne (congrArg _ e)) hw

theorem blockedAt_eq_false_iff : (parts : List String) → (s : Entries Value) →
    (blockedAt parts s = false ↔ ClearWay parts s)
  | [], _ => ⟨fun _ _ _ hp hne => absurd (List.prefix_nil.mp hp) hne, fun _ => rfl⟩
  | [name], s => by
    refine ⟨fun _ above w hp hne hw => ?_, fun _ => rfl⟩
    rcases List.prefix_cons_iff.mp hp with rfl | ⟨t, rfl, ht⟩
    · exact ⟨s, (Option.some.inj hw).symm⟩
    · exact absurd (congrArg _ (List.prefix_nil.mp ht)) hne
  | name :: next :: rest, s => by
    rw [clearWay_cons (List.cons_ne_nil _ _), blockedAt]
    cases hinner : inner? name s with
    | some inner =>
      have hfind := inner?_eq_some.mp hinner
      simp [hfind, blockedAt_eq_false_iff (next :: rest) inner]
    | none => simp [Entries.has]

/-- Where a value that is no table comes from, when one table has been laid over another. -/
theorem at?_merge_iff (hs : (Value.table source).IsProper) (hv : ∀ entries, v ≠ .table entries)
    (parts : List String) :
    Value.at? parts (.table (merge target source)) = some v ↔
      Value.at? parts (.table source) = some v ∨
        Value.at? parts (.table target) = some v ∧ Value.at? parts (.table source) = none ∧
          ClearWay parts source := by
  cases parts with
  | nil => simp [Value.at?, Ne.symm (hv _)]
  | cons name rest =>
    have hne : name :: rest ≠ [] := List.cons_ne_nil _ _
    rw [← getAt_eq_at? _ _ hne, ← getAt_eq_at? _ _ hne, ← getAt_eq_at? _ _ hne,
      getAt_merge _ _ _ hs, ← blockedAt_eq_false_iff]
    cases hsource : getAt (name :: rest) source with
    | none => cases blockedAt (name :: rest) source <;> simp
    | some w =>
      -- a table stays one, whatever it is laid over
      by_cases htable : ∃ entries, w = .table entries
      · obtain ⟨entries, rfl⟩ := htable
        obtain ⟨merged, hmerged⟩ : ∃ merged,
            overlay (getAt (name :: rest) target) (.table entries) = .table merged := by
          unfold overlay
          split <;> exact ⟨_, rfl⟩
        simp [hmerged, Ne.symm (hv _)]
      · simp [overlay_of_not_table _ (not_exists.mp htable)]

end Settings

namespace Config

open Settings (Tables merge defaults isProper_defaults ClearWay)

variable {c d : Config} {files : Files} {s entries : Entries Value}

/-! ## Uses of the file -/

/-- A use that a configuration makes of its file. -/
inductive FileUse where
  | save
  | load

/-- A configuration and the files, after a use. -/
def useFile (state : Config × Files) : FileUse → Config × Files
  | .save => (state.1, state.1.filesAfterSave state.2)
  | .load => ((state.1.load state.2).1, state.2)

/-- A configuration and the files, after several uses. -/
def useFileAll (state : Config × Files) (uses : List FileUse) : Config × Files :=
  uses.foldl useFile state

/-- Saving settings that have a value succeeds, or changes no file, or makes directories and then
cannot write. -/
theorem filesAfterSave_cases {path : String} (hfile : c.file? = some path)
    (hall : c.all? = some (.table s)) (files : Files) :
    (∃ after notices, c.save files = (.ok after, notices) ∧ c.filesAfterSave files = after) ∨
      c.filesAfterSave files = files ∨
      ∃ made bytes, files.makeDirectories (Files.directoryOf path) = .ok made ∧
        (¬ ∃ written, made.write path bytes = .ok written) ∧ c.filesAfterSave files = made := by
  simp only [filesAfterSave, hfile, written_eq hall]
  cases hmake : files.makeDirectories (Files.directoryOf path) with
  | error fault => exact .inr (.inl rfl)
  | ok made =>
    cases hwrite : made.write path (Text.Utf8.encode (Json.print (.table s))) with
    | error fault =>
      refine .inr (.inr ⟨made, Text.Utf8.encode (Json.print (.table s)), rfl, ?_, ?_⟩)
      · rintro ⟨written, hwritten⟩
        rw [hwrite] at hwritten
        exact absurd hwritten (by simp)
      · simp only [hwrite]
    | ok written =>
      have hsave := (save_eq_ok hfile).mpr ⟨rfl, s, hall, made, hmake, hwrite⟩
      exact .inl ⟨written, _, hsave, by simp only [hwrite]⟩

/-- A file that cannot be read says nothing. -/
theorem loaded_eq_nil {path : String} (hfile : c.file? = some path)
    (h : ∀ bytes, files.read path ≠ .ok bytes) : c.loaded files = [] := by
  have hnone : (readFile files path).1 = none := by
    unfold readFile
    split
    · rfl
    · split
      · rfl
      · exact absurd ‹_› (h _)
  simp only [loaded, hfile, hnone, Option.getD_none]

/-- Saving settings that are the defaults with a table over them, and that loading gives again,
leaves it so. -/
theorem loaded_filesAfterSave (he : (Value.table entries).IsProper)
    (hs : s = merge defaults entries) (hall : c.all? = some (.table s))
    (hload : merge defaults (c.loaded files) = s) :
    merge defaults (c.loaded (c.filesAfterSave files)) = s := by
  cases hfile : c.file? with
  | none => simpa only [filesAfterSave, hfile] using hload
  | some path =>
    rcases filesAfterSave_cases hfile hall files with
      ⟨after, notices, hsave, hafter⟩ | hafter | ⟨made, bytes, hmake, hwrite, hafter⟩
    · have hp : (Value.table s).IsProper := hs ▸ Settings.isProper_merge isProper_defaults he
      rw [hafter, loaded_of_save hfile hall hp hsave rfl, hs,
        Settings.merge_merge isProper_defaults he]
    · rw [hafter, hload]
    · -- the file could be read neither before nor now, so the defaults are loaded each time
      have hbefore : c.loaded files = [] := loaded_eq_nil hfile fun old hold =>
        hwrite (Files.exists_write_of_makeDirectories hold hmake bytes)
      have hnow : c.loaded made = [] := loaded_eq_nil hfile fun old hold =>
        hwrite (Files.exists_write_of_read hold bytes)
      rw [hafter, hnow, ← hload, hbefore]

theorem loaded_load (c : Config) (files after : Files) :
    (c.load files).1.loaded after = c.loaded after := by
  have hfile : (c.load files).1.file? = c.file? := by rw [file?, file?, path_load]
  rw [loaded, loaded, hfile]

/-- Settings that are the defaults with a table over them, and that loading gives again, stay
through all uses of the file. -/
theorem all?_useFileAll (he : (Value.table entries).IsProper) (hs : s = merge defaults entries)
    (uses : List FileUse) (hall : c.all? = some (.table s))
    (hload : merge defaults (c.loaded files) = s) :
    (useFileAll (c, files) uses).1.all? = some (.table s) := by
  induction uses generalizing c files with
  | nil => exact hall
  | cons use uses ih =>
    cases use with
    | save => exact ih hall (loaded_filesAfterSave he hs hall hload)
    | load =>
      refine ih ?_ ((congrArg _ (c.loaded_load files files)).trans hload)
      rw [all?_load, hload]

/-! ## Main statement -/

/-- Laying one nested table over another. The result is the same wherever the lower one is held: of
the values that are no tables it has exactly these, each on its own path: all of the upper table,
and those of the lower one where the upper has nothing and only tables on the way. Laying the upper
table over the result again gives this result, and so does laying the result over a copy of the
lower table. So a configuration that has been loaded stays as it is through any uses of its file. -/
theorem merge_layers {target source : Entries Value} (ht : (Value.table target).IsProper)
    (hs : (Value.table source).IsProper) :
    (∀ ts : Tables, (ts.hold (.table target)).2.Nests (.table target) (ts.hold (.table target)).1) ∧
    ∃ merged : Entries Value,
      (∀ parts v, (∀ entries, v ≠ .table entries) →
        (Value.at? parts (.table merged) = some v ↔
          Value.at? parts (.table source) = some v ∨
            Value.at? parts (.table target) = some v ∧ Value.at? parts (.table source) = none ∧
              ClearWay parts source)) ∧
      (∀ (ts : Tables) (id : Nat), ts.Nests (.table target) (.table id) →
        (ts.merge id source).value? (.table id) = some (.table merged) ∧
        ((ts.merge id source).merge id source).value? (.table id) = some (.table merged) ∧
        (ts.merge id merged).value? (.table id) = some (.table merged)) ∧
      ∀ (c : Config) (files : Files) (uses : List FileUse),
        (useFileAll ((c.load files).1, files) uses).1.all? = (c.load files).1.all? := by
  refine ⟨Settings.Tables.nests_hold _, merge target source,
    fun parts v hv => Settings.at?_merge_iff hs hv parts, fun ts id h => ?_, fun c files uses => ?_⟩
  · have hmerged := h.merge source
    have hagain := hmerged.merge source
    have habsorbed := h.merge (merge target source)
    rw [Settings.merge_again ht hs] at hagain
    rw [Settings.merge_merge ht hs] at habsorbed
    exact ⟨Settings.Tables.value?_of_nests hmerged, Settings.Tables.value?_of_nests hagain,
      Settings.Tables.value?_of_nests habsorbed⟩
  · have hall := c.all?_load files
    rw [hall]
    exact all?_useFileAll (c.isProper_loaded files) rfl uses hall
      (congrArg _ (c.loaded_load files files))

/-- Two tables, of which the upper one has a text where the lower one has a table. -/
def lowerLayer : Entries Value :=
  [("a", .table [("x", .int 1), ("y", .int 2)]), ("b", .table [("k", .int 0)])]

/-- The one that is laid over it. -/
def upperLayer : Entries Value :=
  [("a", .table [("x", .text "new"), ("z", .table [])]), ("b", .text "flat")]

/-- A file that says the upper table. -/
def layerFiles : Files :=
  [(["c.json"], .file (Text.Utf8.encode (Json.print (.table upperLayer))))]

/-- The lower table as a new one. -/
def lowerTables : Tables :=
  (Tables.hold [] (.table lowerLayer)).2

/-- The number beside a new text is still there, and the one in the table that gave way is not. -/
theorem merge_layers_upper :
    (Value.table lowerLayer).IsProper ∧ (Value.table upperLayer).IsProper ∧
      lowerTables.Nests (.table lowerLayer) (.table 2) ∧
      ∃ merged : Entries Value,
        Value.at? ["a", "x"] (.table merged) = some (.text "new") ∧
        Value.at? ["a", "y"] (.table merged) = some (.int 2) ∧
        Value.at? ["b", "k"] (.table merged) ≠ some (.int 0) ∧
        (lowerTables.merge 2 upperLayer).value? (.table 2) = some (.table merged) ∧
        ((lowerTables.merge 2 upperLayer).merge 2 upperLayer).value? (.table 2) =
          some (.table merged) ∧
        (lowerTables.merge 2 merged).value? (.table 2) = some (.table merged) ∧
        let loaded := (load ⟨some "c.json", [[]], 0⟩ layerFiles).1
        (useFileAll (loaded, layerFiles) [.save, .load, .save]).1.all? = loaded.all? := by
  have hlower : (Value.table lowerLayer).IsProper := by
    simp [lowerLayer, Value.IsProper, Value.EntriesProper]
  have hupper : (Value.table upperLayer).IsProper := by
    simp [upperLayer, Value.IsProper, Value.EntriesProper]
  obtain ⟨held, merged, leaf, reads, stays⟩ := merge_layers hlower hupper
  have hnests : lowerTables.Nests (.table lowerLayer) (.table 2) := held []
  obtain ⟨once, again, absorbed⟩ := reads lowerTables 2 hnests
  refine ⟨hlower, hupper, hnests, merged, ?_, ?_, ?_, once, again, absorbed, stays _ _ _⟩
  · exact (leaf ["a", "x"] _ (by simp)).mpr (.inl rfl)
  · have hclear : ClearWay ["a", "y"] upperLayer := (Settings.blockedAt_eq_false_iff _ _).mp rfl
    exact (leaf ["a", "y"] _ (by simp)).mpr (.inr ⟨rfl, rfl, hclear⟩)
  · rw [Ne, leaf ["b", "k"] _ (by simp)]
    rintro (hthere | ⟨-, -, hclear⟩)
    · exact absurd hthere (by simp [upperLayer, Value.at?, Entries.find?])
    · exact absurd ((Settings.blockedAt_eq_false_iff _ _).mpr hclear) (by decide)

end Config

end TypedMarkup
