import TypedMarkup.Files
import TypedMarkup.Proofs.Text.Blank

/-!
# A written file

What `put` leaves under a path and under every other (`entry?_put_self`, `entry?_put_of_ne`). A file
that could be written holds what was written (`read_of_write`): the way to it does not change,
because it leads through shorter paths.

A file can be written, in directories that are made as needed, just when the path ends in a name, no
file is in the way and no directory in the place (`takes_iff`). So a file that can be read can be
written over (`exists_write_of_read`, `exists_write_of_makeDirectories`).
-/

namespace TypedMarkup.Files

variable {files written : Files} {path other : List String} {entry : FileEntry}

theorem entry?_put_self (files : Files) (entry : FileEntry) (h : path ≠ []) :
    entry? (files.put path entry) path = some entry := by
  have hempty : path.isEmpty = false := by simpa using h
  have hnone : (files.filter fun e => e.1 != path).find? (fun e => e.1 == path) = none := by
    rw [List.find?_eq_none]
    intro e he
    simpa using (List.mem_filter.mp he).2
  unfold entry? put
  rw [hempty, List.find?_append, hnone]
  simp

theorem entry?_put_of_ne (files : Files) (entry : FileEntry) (h : other ≠ path) :
    entry? (files.put path entry) other = files.entry? other := by
  have hlast : [(path, entry)].find? (fun e => e.1 == other) = none := by
    simpa using Ne.symm h
  have hfilter : (files.filter fun e => e.1 != path).find? (fun e => e.1 == other) =
      files.find? fun e => e.1 == other := by
    rw [List.find?_filter]
    congr 1
    funext e
    by_cases he : e.1 = other <;> simp [he, h]
  unfold entry? put
  rw [List.find?_append, hlast, hfilter, Option.or_none]

theorem wayFault?_cons (files : Files) (name : String) (walked : List String) (part next : String)
    (rest : List String) :
    files.wayFault? name walked (part :: next :: rest) =
      match files.entry? (walked ++ [part]) with
      | some .directory => files.wayFault? name (walked ++ [part]) (next :: rest)
      | some (.file _) => some (.notDirectory name)
      | none => some (.fileNotFound name) := rfl

/-- The way to a path leads through shorter paths, so it does not see what is put under the path. -/
theorem wayFault?_put (files : Files) (name : String) (entry : FileEntry) :
    (walked rest : List String) →
      (files.put (walked ++ rest) entry).wayFault? name walked rest =
        files.wayFault? name walked rest
  | _, [] => rfl
  | _, [_] => rfl
  | walked, part :: next :: rest => by
    have hne : walked ++ [part] ≠ walked ++ part :: next :: rest := by simp
    have ih := wayFault?_put files name entry (walked ++ [part]) (next :: rest)
    rw [List.append_assoc, List.singleton_append] at ih
    rw [wayFault?_cons, wayFault?_cons, entry?_put_of_ne files entry hne, ih]

theorem parts_empty : parts "" = [] := by
  decide

/-- A file that has been written is there and holds what was written. -/
theorem read_of_write {path : String} {bytes : List UInt8}
    (h : files.write path bytes = .ok written) :
    written.holds path = true ∧ written.read path = .ok bytes := by
  unfold write at h
  split at h
  · exact absurd h (by simp)
  rename_i hway
  split at h
  · exact absurd h (by simp)
  rename_i hentry
  have hne : parts path ≠ [] := fun he => hentry (by rw [he]; rfl)
  have hpath : path ≠ "" := fun he => hne (he ▸ parts_empty)
  have hway' : written.wayFault? path [] (parts path) = none := by
    rw [← Except.ok.inj h, ← hway]
    exact wayFault?_put files path (.file bytes) [] (parts path)
  have hfile : written.entry? (parts path) = some (.file bytes) := by
    rw [← Except.ok.inj h, entry?_put_self files _ hne]
  exact ⟨by simp [holds, hway', hfile, hpath], by rw [read, hway', hfile]⟩

/-! ## The parts of a path -/

/-- A last name adds one part, or none if it is empty or a dot. -/
theorem parts_ofList {as bs : List Char} (h : '/' ∉ bs) :
    parts (String.ofList (as ++ '/' :: bs)) = parts (String.ofList as) ∨
      parts (String.ofList (as ++ '/' :: bs)) = parts (String.ofList as) ++ [String.ofList bs] := by
  unfold parts Text.split
  rw [String.toList_ofList, String.toList_ofList, Text.splitChars_append,
    Text.splitChars_of_not_mem h, List.map_append, List.filter_append, List.map_singleton,
    List.filter_cons, List.filter_nil]
  split
  · exact .inr rfl
  · exact .inl (List.append_nil _)

/-- A path has at most one part more than its directory. -/
theorem parts_directoryOf (path : String) :
    parts path = parts (directoryOf path) ∨
      ∃ name, parts path = parts (directoryOf path) ++ [name] := by
  by_cases h : '/' ∈ path.toList
  · obtain ⟨bs, as, hrev, hbs⟩ := List.eq_append_cons_of_mem (List.mem_reverse.mpr h)
    have hpath : path = String.ofList (as.reverse ++ '/' :: bs.reverse) := by
      rw [← String.ofList_toList (s := path), ← List.reverse_reverse path.toList, hrev]
      simp
    have hdir : directoryOf path = String.ofList as.reverse := by
      rw [directoryOf, hrev, List.dropWhile_append_of_pos fun b hb => ?_]
      · simp
      · have hne : b ≠ '/' := fun e => hbs (e ▸ hb)
        simpa using hne
    have hname : '/' ∉ bs.reverse := fun hm => hbs (List.mem_reverse.mp hm)
    rw [hdir, hpath]
    exact (parts_ofList hname).imp_right fun hp => ⟨_, hp⟩
  · have hdir : directoryOf path = "" := by
      rw [directoryOf, List.dropWhile_eq_nil_iff.mpr fun c hc => ?_]
      · rfl
      · have hne : c ≠ '/' := fun e => h (e ▸ List.mem_reverse.mp hc)
        simpa using hne
    rw [hdir, parts_empty, parts, Text.split, Text.splitChars_of_not_mem h, List.map_singleton,
      List.filter_cons, List.filter_nil]
    split
    · exact .inr ⟨_, rfl⟩
    · exact .inl rfl

/-! ## Making directories -/

/-- The paths that lead from `walked` through `rest`, one part after the other. -/
theorem forall_prefix_cons {walked rest : List String} {part : String} {P : List String → Prop} :
    (∀ q, q ≠ [] → q <+: part :: rest → P (walked ++ q)) ↔
      P (walked ++ [part]) ∧ ∀ q, q ≠ [] → q <+: rest → P (walked ++ [part] ++ q) := by
  refine ⟨fun h => ⟨h [part] (by simp) (by simp), fun q _ hq => ?_⟩, fun h q hne hq => ?_⟩
  · rw [List.append_assoc]
    exact h (part :: q) (by simp) ((List.cons_prefix_cons).mpr ⟨rfl, hq⟩)
  · obtain rfl | ⟨t, rfl, ht⟩ := List.prefix_cons_iff.mp hq
    · exact absurd rfl hne
    · cases t with
      | nil => exact h.1
      | cons next t =>
        have hlonger := h.2 (next :: t) (by simp) ht
        rwa [List.append_assoc] at hlonger

/-- No file stands on the way from `walked` through `rest`. -/
def WayFree (files : Files) (walked rest : List String) : Prop :=
  ∀ q, q ≠ [] → q <+: rest → ∀ bytes, files.entry? (walked ++ q) ≠ some (.file bytes)

theorem wayFree_cons {walked rest : List String} {part : String} :
    files.WayFree walked (part :: rest) ↔
      (∀ bytes, files.entry? (walked ++ [part]) ≠ some (.file bytes)) ∧
        files.WayFree (walked ++ [part]) rest :=
  forall_prefix_cons (P := fun p => ∀ bytes, files.entry? p ≠ some (.file bytes))

theorem wayFree_nil (walked : List String) : files.WayFree walked [] :=
  fun _ hq hp => absurd (List.prefix_nil.mp hp) hq

/-- The way from `walked` through `rest` leads through directories, and nothing else has changed. -/
structure Made (files made : Files) (walked rest : List String) : Prop where
  directories : ∀ q, q ≠ [] → q <+: rest → made.entry? (walked ++ q) = some .directory
  others : ∀ p, (∀ q, q ≠ [] → q <+: rest → p ≠ walked ++ q) → made.entry? p = files.entry? p

theorem append_ne_self {walked q : List String} (h : q ≠ []) : walked ++ q ≠ walked :=
  fun he => h (List.append_right_eq_self.mp he)

/-- One more directory in front, which was there or has just been put. -/
theorem Made.cons {files between made : Files} {walked rest : List String} {part : String}
    (h : Made between made (walked ++ [part]) rest)
    (hpart : between.entry? (walked ++ [part]) = some .directory)
    (hothers : ∀ p, p ≠ walked ++ [part] → between.entry? p = files.entry? p) :
    Made files made walked (part :: rest) := by
  refine ⟨(forall_prefix_cons (P := fun p => made.entry? p = some .directory)).mpr
    ⟨?_, h.directories⟩, fun p hp => ?_⟩
  · rw [h.others _ fun q hq _ => (append_ne_self hq).symm, hpart]
  · obtain ⟨hne, hrest⟩ := (forall_prefix_cons (P := (p ≠ ·))).mp hp
    rw [h.others p hrest, hothers p hne]

/-- A directory in front is on no way that begins behind it. -/
theorem wayFree_put {path rest : List String} :
    WayFree (files.put path entry) path rest ↔ files.WayFree path rest := by
  refine forall_congr' fun q => forall_congr' fun hq => ?_
  rw [entry?_put_of_ne files entry (append_ne_self hq)]

/-- Where directories could be made no file is on the way, and then they are all there. -/
theorem made_of_makeFrom (name : String) (rest : List String) {files made : Files}
    {walked : List String} (h : files.makeFrom name walked rest = .ok made) :
    WayFree files walked rest ∧ Made files made walked rest := by
  induction rest generalizing files walked with
  | nil =>
    rw [← Except.ok.inj h]
    have hnone {q : List String} (hq : q ≠ []) : ¬ q <+: [] := fun hp => hq (List.prefix_nil.mp hp)
    exact ⟨wayFree_nil walked, fun q hq hp => absurd hp (hnone hq), fun p _ => rfl⟩
  | cons part rest ih =>
    simp only [makeFrom] at h
    split at h
    · rename_i hentry
      obtain ⟨hfree, hmade⟩ := ih h
      refine ⟨wayFree_cons.mpr ⟨fun bytes => ?_, hfree⟩, hmade.cons hentry fun _ _ => rfl⟩
      rw [hentry]
      simp
    · exact absurd h (by simp)
    · rename_i hentry
      obtain ⟨hfree, hmade⟩ := ih h
      refine ⟨wayFree_cons.mpr ⟨fun bytes => ?_, wayFree_put.mp hfree⟩, hmade.cons
        (entry?_put_self files _ (by simp)) fun p hp => entry?_put_of_ne files _ hp⟩
      rw [hentry]
      simp

/-- Directories can be made where no file is on the way. -/
theorem exists_makeFrom (name : String) (rest : List String) {files : Files} {walked : List String}
    (h : files.WayFree walked rest) : ∃ made, files.makeFrom name walked rest = .ok made := by
  induction rest generalizing files walked with
  | nil => exact ⟨files, rfl⟩
  | cons part rest ih =>
    obtain ⟨hpart, hrest⟩ := wayFree_cons.mp h
    simp only [makeFrom]
    split
    · exact ih hrest
    · exact absurd ‹_› (hpart _)
    · exact ih (wayFree_put.mpr hrest)

/-! ## When a file can be written -/

/-- The way to a path leads nowhere else when it leads through directories. -/
theorem wayFault?_of_directories (name last : String) (dirs : List String) {walked : List String}
    (h : ∀ q, q ≠ [] → q <+: dirs → files.entry? (walked ++ q) = some .directory) :
    files.wayFault? name walked (dirs ++ [last]) = none := by
  induction dirs generalizing walked with
  | nil => rfl
  | cons part dirs ih =>
    obtain ⟨hpart, hrest⟩ :=
      (forall_prefix_cons (P := fun p => files.entry? p = some .directory)).mp h
    have hway := ih hrest
    cases dirs with
    | nil =>
      rw [List.cons_append, List.nil_append, wayFault?_cons, hpart]
      rfl
    | cons next dirs =>
      rw [List.cons_append, List.cons_append, wayFault?_cons, hpart]
      exact hway

/-- The path ends in a name, no file is on the way to it, and it is no directory. -/
structure Takes (files : Files) (path : String) : Prop where
  named : ∃ name, parts path = parts (directoryOf path) ++ [name]
  way : files.WayFree [] (parts (directoryOf path))
  place : files.entry? (parts path) ≠ some .directory

/-- Making the directories of a path changes nothing in its place. -/
theorem Made.place {files made : Files} {path dirs : List String} {name : String}
    (h : Made files made [] dirs) (hname : path = dirs ++ [name]) :
    made.entry? path = files.entry? path := by
  refine h.others _ fun q _ hq he => ?_
  have hlength := hq.length_le
  rw [List.nil_append] at he
  rw [← he, hname, List.length_append, List.length_singleton] at hlength
  exact Nat.not_succ_le_self _ hlength

/-- Writing succeeds just when the way is there and no directory is in the place. -/
theorem exists_write_iff (files : Files) (path : String) (bytes : List UInt8) :
    (∃ written, files.write path bytes = .ok written) ↔
      files.wayFault? path [] (parts path) = none ∧
        files.entry? (parts path) ≠ some .directory := by
  unfold write
  split
  · simp [*]
  · split
    · simp [*]
    · rename_i hplace
      exact ⟨fun _ => ⟨‹_›, hplace⟩, fun _ => ⟨_, rfl⟩⟩

/-- So does writing behind what is there. -/
theorem exists_append_iff (files : Files) (path : String) (bytes : List UInt8) :
    (∃ written, files.append path bytes = .ok written) ↔
      files.wayFault? path [] (parts path) = none ∧
        files.entry? (parts path) ≠ some .directory := by
  unfold append
  split <;> exact exists_write_iff files path _

/-- A file can be written, in directories that are made as needed, just when its path takes one. -/
theorem takes_iff (path : String) (bytes : List UInt8) :
    (∃ made written, files.makeDirectories (directoryOf path) = .ok made ∧
      made.write path bytes = .ok written) ↔ files.Takes path := by
  constructor
  · rintro ⟨made, written, hmake, hwrite⟩
    obtain ⟨hfree, hmade⟩ := made_of_makeFrom _ _ hmake
    obtain ⟨-, hplace⟩ := (exists_write_iff made path bytes).mp ⟨written, hwrite⟩
    rcases parts_directoryOf path with he | ⟨name, hname⟩
    · -- the path is that of its directory, which is there by now
      rw [he] at hplace
      generalize parts (directoryOf path) = dirs at hmade hplace
      by_cases hdirs : dirs = []
      · exact absurd (by rw [hdirs]; rfl) hplace
      · exact absurd (hmade.directories dirs hdirs List.prefix_rfl) hplace
    · rw [hmade.place hname] at hplace
      exact ⟨⟨name, hname⟩, hfree, hplace⟩
  · rintro ⟨⟨name, hname⟩, hway, hplace⟩
    obtain ⟨made, hmake⟩ := exists_makeFrom (directoryOf path) (parts (directoryOf path)) hway
    obtain ⟨-, hmade⟩ := made_of_makeFrom _ _ hmake
    have hthere : made.wayFault? path [] (parts path) = none := by
      rw [hname]
      exact wayFault?_of_directories path name _ hmade.directories
    rw [← hmade.place hname] at hplace
    obtain ⟨written, hwrite⟩ := (exists_write_iff made path bytes).mpr ⟨hthere, hplace⟩
    exact ⟨made, written, hmake, hwrite⟩

/-- The same of writing behind what is there. -/
theorem takes_iff_append (path : String) (bytes : List UInt8) :
    (∃ made written, files.makeDirectories (directoryOf path) = .ok made ∧
      made.append path bytes = .ok written) ↔ files.Takes path := by
  rw [← takes_iff path bytes]
  refine exists_congr fun made => ?_
  rw [exists_and_left, exists_and_left, exists_append_iff, exists_write_iff]

/-! ## Writing over a file -/

theorem entry?_of_read {path : String} {bytes : List UInt8} (h : files.read path = .ok bytes) :
    files.wayFault? path [] (parts path) = none ∧
      files.entry? (parts path) = some (.file bytes) := by
  unfold read at h
  split at h
  · exact absurd h (by simp)
  rename_i hway
  split at h
  · rename_i hentry
    exact ⟨hway, by rw [hentry, Except.ok.inj h]⟩
  · exact absurd h (by simp)
  · exact absurd h (by simp)

/-- A file that can be read can be written. -/
theorem exists_write_of_read {path : String} {old : List UInt8} (h : files.read path = .ok old)
    (bytes : List UInt8) : ∃ written, files.write path bytes = .ok written := by
  obtain ⟨hway, hentry⟩ := entry?_of_read h
  exact (exists_write_iff files path bytes).mpr ⟨hway, by rw [hentry]; simp⟩

/-- A file that can be read can be written once its directory has been made, which was there. -/
theorem exists_write_of_makeDirectories {path : String} {old : List UInt8} {made : Files}
    (h : files.read path = .ok old) (hmake : files.makeDirectories (directoryOf path) = .ok made)
    (bytes : List UInt8) : ∃ written, made.write path bytes = .ok written := by
  obtain ⟨-, hentry⟩ := entry?_of_read h
  obtain ⟨hfree, -⟩ := made_of_makeFrom _ _ hmake
  have htakes : files.Takes path := by
    refine ⟨?_, hfree, by rw [hentry]; simp⟩
    rcases parts_directoryOf path with he | hname
    · -- the file would be on the way to itself
      have hne : parts path ≠ [] := fun hnil => by simp [hnil, entry?] at hentry
      have hprefix : parts path <+: parts (directoryOf path) := ⟨[], by rw [List.append_nil, he]⟩
      exact absurd hentry (hfree (parts path) hne hprefix old)
    · exact hname
  obtain ⟨made', written, hmake', hwrite⟩ := (takes_iff path bytes).mpr htakes
  obtain rfl : made = made' := Except.ok.inj (hmake.symm.trans hmake')
  exact ⟨written, hwrite⟩

end TypedMarkup.Files
