import TypedMarkup.Proofs.Settings.Ways
import TypedMarkup.Proofs.Text.Blank
import TypedMarkup.Settings.Config

/-!
# What a key reads

A key is a way by its parts from the table that is the settings. Setting and removing change one
entry of a table that was there, the slot of the key (`Config.slot`). As settings hold a table and
no copy of it, a key that has nothing to do with this one may come to the slot too, where its table
stands in a second place; then it reads the change. A way that comes to the slot only as the key
itself does is `Straight`.

* `get_of_set`: what every such key reads after an item has been set;
* `get_of_remove`: when there is something to remove, and what every such key reads afterwards;
* `get_of_set_shared`, `get_of_remove_shared`: what may happen to the others.
-/

namespace TypedMarkup.Config

open Settings (Item Tables Step Slot Apart keyParts names names_append names_prefix_iff)
open Settings.Tables (ChangedAt SlotSpec SetSpec set_spec changedAt_erase exists_table_of_follow?
  follow?_append follow?_of_apart follow?_of_changedAt follow?_of_erase follow?_of_remove?
  get?_eq_follow? isSome_remove? within_of_follow?)

variable {c : Config} {key other : String} {x : Item}

/-! ## Sound configurations -/

/-- The settings are one of the tables, and in these there are only tables that there are. -/
structure Sound (c : Config) : Prop where
  tables : c.tables.Sound
  root : c.root < c.tables.length

theorem sound_set (hc : c.Sound) (key : String) (hx : x.Within c.tables.length) :
    (c.set key x).Sound := by
  obtain ⟨hsound, hle⟩ := Settings.Tables.sound_set (keyParts key) c.root hc.tables hx
  exact ⟨hsound, Nat.lt_of_lt_of_le hc.root hle⟩

theorem keyParts_ne_nil (key : String) : keyParts key ≠ [] :=
  fun h => Text.splitChars_ne_nil '.' key.toList (List.map_eq_nil_iff.mp h)

/-! ## Ways from the settings -/

/-- What a way leads to from the settings. -/
def at? (c : Config) (way : List Step) : Option Item :=
  c.tables.follow? way (.table c.root)

/-- The entry that setting and removing a key changes. -/
def slot (c : Config) (key : String) : Slot :=
  c.tables.slot (keyParts key) c.root

/-- A way comes to the slot of a key only as the key does. -/
def Straight (c : Config) (key : String) (way : List Step) : Prop :=
  c.tables.Straight (c.slot key) c.root way

instance (c : Config) (key : String) (way : List Step) : Decidable (c.Straight key way) :=
  inferInstanceAs (Decidable (Settings.Tables.Straight ..))

theorem get_eq (c : Config) (key : String) (d : Item) :
    c.get key d = (c.at? (names (keyParts key))).getD d := by
  rw [get, get?, Settings.Tables.get?_eq_follow? _ _ (keyParts_ne_nil key)]
  rfl

/-- Every key that parts from this one reads in the one configuration what it reads in the other, if
it is straight, and straight ways from what it reads lead to the same. -/
def SparesOthers (c : Config) (key : String) (c' : Config) : Prop :=
  ∀ other, Apart (keyParts key) (keyParts other) →
    (c.Straight key (names (keyParts other)) → ∀ d, c'.get other d = c.get other d) ∧
    ∀ way, c.Straight key (names (keyParts other) ++ way) →
      c'.at? (names (keyParts other) ++ way) = c.at? (names (keyParts other) ++ way)

theorem sparesOthers_of_at? {c' : Config}
    (h : ∀ other, Apart (keyParts key) (keyParts other) → ∀ way,
      c.Straight key (names (keyParts other) ++ way) →
        c'.at? (names (keyParts other) ++ way) = c.at? (names (keyParts other) ++ way)) :
    c.SparesOthers key c' := by
  refine fun other hk => ⟨fun hway d => ?_, h other hk⟩
  have hread := h other hk []
  rw [List.append_nil] at hread
  rw [get_eq, get_eq, hread hway]

theorem slot_spec (hc : c.Sound) (key : String) :
    ∃ rest, SlotSpec c.tables (keyParts key) c.root (c.slot key) rest :=
  Settings.Tables.slot_spec hc.tables _ _ (keyParts_ne_nil key) hc.root

/-! ## Setting -/

/-- The parts of a straight key lead to the table of its slot also after the key was set. -/
theorem leads_set (hc : c.Sound) (hkey : c.Straight key (names (keyParts key))) {rest : List String}
    (spec : SlotSpec c.tables (keyParts key) c.root (c.slot key) rest) (x : Item) :
    (c.set key x).tables.follow? (names (c.slot key).above) (.table c.root) =
      some (.table (c.slot key).table) := by
  have hway : names (c.slot key).above <+: names (keyParts key) :=
    names_prefix_iff.mpr (spec.parts_eq ▸ List.prefix_append ..)
  exact spec.leads_of_changedAt hc.tables hc.root (set_spec spec x).changed hway hkey

theorem changedAt_set (hc : c.Sound) (key : String) (x : Item) :
    ChangedAt (c.slot key).table (c.slot key).name c.tables (c.set key x).tables := by
  obtain ⟨rest, spec⟩ := c.slot_spec hc key
  exact (set_spec spec x).changed

/-- A straight key leads to what was set under it. -/
theorem at?_set (hc : c.Sound) (hkey : c.Straight key (names (keyParts key))) (x : Item)
    (way : List Step) :
    (c.set key x).at? (names (keyParts key) ++ way) = (c.set key x).tables.follow? way x := by
  obtain ⟨rest, spec⟩ := c.slot_spec hc key
  have hset : SetSpec c.tables (c.set key x).tables (c.slot key) rest x := set_spec spec x
  have hroot : (c.set key x).root = c.root := rfl
  rw [at?, hroot, spec.parts_eq, follow?_append, names_append, follow?_append,
    leads_set hc hkey spec, Option.bind_some, hset.reached, Option.bind_some]

theorem at?_set_self (hc : c.Sound) (hkey : c.Straight key (names (keyParts key))) (x : Item) :
    (c.set key x).at? (names (keyParts key)) = some x := by
  have hread := c.at?_set hc hkey x []
  rwa [List.append_nil] at hread

theorem sparesOthers_set (hc : c.Sound) (key : String) (x : Item) :
    c.SparesOthers key (c.set key x) := by
  obtain ⟨rest, spec⟩ := c.slot_spec hc key
  have hset : SetSpec c.tables (c.set key x).tables (c.slot key) rest x := set_spec spec x
  exact sparesOthers_of_at? fun other hk way hway =>
    follow?_of_apart hc.tables hc.root spec hset.changed hset.beyond hk way hway

/-! ## Removing -/

/-- Removing takes out the entry of the slot, or finds nothing and changes nothing. -/
theorem remove_cases (c : Config) (key : String) :
    (∃ left, c.tables.remove? (keyParts key) c.root = some left ∧
      c.remove key = (true, { c with tables := left })) ∨
    c.tables.remove? (keyParts key) c.root = none ∧ c.remove key = (false, c) := by
  cases h : c.tables.remove? (keyParts key) c.root with
  | some left => exact .inl ⟨left, rfl, by simp only [remove, h]⟩
  | none => exact .inr ⟨rfl, by simp only [remove, h]⟩

theorem sound_remove (hc : c.Sound) (key : String) : (c.remove key).2.Sound := by
  rcases c.remove_cases key with ⟨left, hleft, h⟩ | ⟨-, h⟩
  · obtain ⟨rest, spec⟩ := c.slot_spec hc key
    obtain ⟨-, rfl⟩ := spec.of_remove? hleft
    rw [h]
    exact ⟨hc.tables.erase _ _, by simpa [Settings.Tables.length_erase] using hc.root⟩
  · rwa [h]

/-- Removing tells whether the key reads anything. -/
theorem remove_fst (c : Config) (key : String) :
    (c.remove key).1 = (c.at? (names (keyParts key))).isSome := by
  rw [at?, ← get?_eq_follow? _ _ (keyParts_ne_nil key), ← isSome_remove?]
  rcases c.remove_cases key with ⟨left, hleft, h⟩ | ⟨hnone, h⟩
  · rw [h, hleft]
    rfl
  · rw [h, hnone]
    rfl

/-- What was removed leads nowhere. -/
theorem at?_remove (hc : c.Sound) (h : (c.remove key).1 = true) (way : List Step) :
    (c.remove key).2.at? (names (keyParts key) ++ way) = none := by
  rcases c.remove_cases key with ⟨left, hleft, heq⟩ | ⟨-, heq⟩
  · rw [heq]
    exact follow?_of_remove? hc.tables (keyParts_ne_nil key) hc.root hleft way
  · rw [heq] at h
    exact absurd h (by simp)

theorem sparesOthers_remove (hc : c.Sound) (key : String) :
    c.SparesOthers key (c.remove key).2 := by
  refine sparesOthers_of_at? fun other hk way hway => ?_
  rcases c.remove_cases key with ⟨left, hleft, h⟩ | ⟨-, h⟩
  · obtain ⟨rest, spec⟩ := c.slot_spec hc key
    obtain ⟨rfl, rfl⟩ := spec.of_remove? hleft
    rw [h]
    exact follow?_of_apart hc.tables hc.root spec (changedAt_erase _ _ _)
      (fun w way hw => absurd rfl hw.ne_nil) hk way hway
  · rw [h]

/-! ## Setting and removing -/

/-- After an item has been set under a straight key, the slot at which the key ends is the same one,
or else in a new table. -/
theorem slot_set (hc : c.Sound) (hkey : c.Straight key (names (keyParts key)))
    (spec : SlotSpec (c.set key x).tables (keyParts key) c.root ((c.set key x).slot key) []) :
    ((c.set key x).slot key).table = (c.slot key).table ∧
        ((c.set key x).slot key).name = (c.slot key).name ∨
      c.tables.length ≤ ((c.set key x).slot key).table := by
  obtain ⟨rest₀, spec₀⟩ := c.slot_spec hc key
  have hset : SetSpec c.tables (c.set key x).tables (c.slot key) rest₀ x := set_spec spec₀ x
  have hleads₀ := leads_set hc hkey spec₀ x
  have hleads := spec.leads
  have hparts := spec.parts_eq
  rw [spec₀.parts_eq] at hparts
  rcases List.eq_nil_or_concat rest₀ with h₀ | ⟨a, part, h₀⟩
  · rw [h₀] at hparts
    obtain ⟨habove, hname⟩ := List.append_inj' hparts rfl
    rw [← habove, hleads₀] at hleads
    exact .inl ⟨(Item.table.inj (Option.some.inj hleads)).symm, (List.singleton_inj.mp hname).symm⟩
  · have hbelow : (c.slot key).above ++ (c.slot key).name :: rest₀ =
        ((c.slot key).above ++ (c.slot key).name :: a) ++ [part] := by
      simp [h₀]
    rw [hbelow] at hparts
    obtain ⟨habove, -⟩ := List.append_inj' hparts rfl
    obtain ⟨k, hk, hread⟩ := hset.between a part [] (by simp [h₀])
    rw [← habove, names_append, follow?_append, hleads₀, Option.bind_some, hread] at hleads
    exact .inr (Item.table.inj (Option.some.inj hleads) ▸ hk)

/-- What was set under a straight key is there to be removed. -/
theorem remove_set_fst (hc : c.Sound) (hkey : c.Straight key (names (keyParts key))) (x : Item) :
    ((c.set key x).remove key).1 = true := by
  rw [remove_fst, at?_set_self hc hkey x]
  rfl

theorem sparesOthers_remove_set (hc : c.Sound) (hkey : c.Straight key (names (keyParts key)))
    (hx : x.Within c.tables.length) : c.SparesOthers key ((c.set key x).remove key).2 := by
  have hc' := c.sound_set hc key hx
  refine sparesOthers_of_at? fun other hk way hway => ?_
  rcases (c.set key x).remove_cases key with ⟨left, hleft, h⟩ | ⟨-, h⟩
  · obtain ⟨rest, spec⟩ := c.slot_spec hc key
    have hset : SetSpec c.tables (c.set key x).tables (c.slot key) rest x := set_spec spec x
    obtain ⟨rest', spec'⟩ := (c.set key x).slot_spec hc' key
    obtain ⟨rfl, rfl⟩ := spec'.of_remove? hleft
    rw [h]
    refine follow?_of_apart hc.tables hc.root spec (hset.changed.erase
      (slot_set hc hkey spec')) (fun w way hw => ?_) hk way hway
    -- what leads to nothing before an entry is taken out does so after it
    refine Option.eq_none_iff_forall_ne_some.mpr fun y hy => ?_
    have hlt : (c.slot key).table < (c.set key x).tables.length :=
      Nat.lt_of_lt_of_le spec.there (Settings.Tables.sound_set _ c.root hc.tables hx).2
    have hbefore := follow?_of_erase (x := .table (c.slot key).table) hc'.tables hlt hy
    rw [hset.beyond w way hw] at hbefore
    exact absurd hbefore (by simp)
  · exact absurd (remove_set_fst hc hkey x) (by simp [h])

/-! ## Main statements -/

/-- What keys read after an item has been set. As long as the key is straight, it reads the item; a
key that goes on from there reads what the rest leads to in the item, or else the default; and a key
on the way to it reads a table that leads to the item. In the item, ways lead to what they led to
before, if they do not come to the slot. Every other key that is straight reads what it read before,
and straight ways from what it reads lead to what they led to. -/
theorem get_of_set (hc : c.Sound) (key : String) {x : Item} (hx : x.Within c.tables.length) :
    (c.Straight key (names (keyParts key)) →
      (∀ d, (c.set key x).get key d = x) ∧
      (∀ other rest d, rest ≠ [] → keyParts other = keyParts key ++ rest →
        (c.set key x).get other d = ((c.set key x).tables.follow? (names rest) x).getD d) ∧
      ∀ other rest d, rest ≠ [] → keyParts key = keyParts other ++ rest →
        ∃ id, (c.set key x).get other d = .table id ∧
          (c.set key x).tables.follow? (names rest) (.table id) = some x) ∧
    (∀ way, (∀ above, above ++ [.name (c.slot key).name] <+: way →
        c.tables.follow? above x ≠ some (.table (c.slot key).table)) →
      (c.set key x).tables.follow? way x = c.tables.follow? way x) ∧
    c.SparesOthers key (c.set key x) := by
  refine ⟨fun hkey => ⟨fun d => ?_, fun other rest d _ heq => ?_, fun other rest d hrest heq => ?_⟩,
    fun way hway => ?_, sparesOthers_set hc key x⟩
  · rw [get_eq, at?_set_self hc hkey x, Option.getD_some]
  · rw [get_eq, heq, names_append, at?_set hc hkey x]
  · have hread := at?_set_self hc hkey x
    rw [heq, names_append, at?, follow?_append] at hread
    obtain ⟨w, hw, hread⟩ := Option.bind_eq_some_iff.mp hread
    obtain ⟨id, rfl⟩ := exists_table_of_follow? hrest hread
    exact ⟨id, by rw [get_eq, at?, hw, Option.getD_some], hread⟩
  · exact follow?_of_changedAt hc.tables (changedAt_set hc key x) hx hway

/-- A text, and a table with a null in it. -/
def smallValue : Value :=
  .table [("a", .text "x"), ("b", .table [("c", .null), ("d", .int 2)])]

/-- These as settings, and one more table that a caller has. -/
def small : Config :=
  ⟨none, (Tables.hold (Tables.hold [] smallValue).2 (.table [("m", .int 1)])).2, 1⟩

theorem sound_small : small.Sound := by
  have hsmall : smallValue.IsProper := by
    simp [smallValue, Value.IsProper, Value.EntriesProper]
  have htables := (Tables.sound_hold _ Tables.sound_nil hsmall).1
  exact ⟨(Tables.sound_hold _ htables (by simp [Value.IsProper, Value.EntriesProper])).1,
    by decide⟩

/-- The caller's table under a key that goes on from the text and has an empty part. -/
theorem get_of_set_small :
    let c := small.set "a..l" (.table 2)
    small.Sound ∧ 2 < small.tables.length ∧ c.get "a..l" .null = .table 2 ∧
      c.get "a..l.m" .null = .int 1 ∧ c.get "a..l.m.x" (.int 7) = .int 7 ∧
      (∃ id, c.get "a" .null = .table id) ∧ c.get "a.l" (.int 7) = .int 7 ∧
      c.get "b.d" .null = .int 2 := by
  have hwithin : 2 < small.tables.length := by decide
  obtain ⟨reads, -, others⟩ := get_of_set (x := .table 2) sound_small "a..l" hwithin
  obtain ⟨self, beyond, above⟩ := reads (by decide)
  refine ⟨sound_small, hwithin, self .null, ?_, ?_, ?_, ?_, ?_⟩
  · exact beyond "a..l.m" ["m"] .null (by decide) rfl
  · exact beyond "a..l.m.x" ["m", "x"] (.int 7) (by decide) rfl
  · obtain ⟨id, hget, -⟩ := above "a" ["", "l"] .null (by decide) rfl
    exact ⟨id, hget⟩
  · exact (others "a.l" (by decide)).1 (by decide) (.int 7)
  · exact (others "b.d" (by decide)).1 (by decide) .null

/-- The defaults, with one of their tables under a second key. -/
def shared : Config :=
  let c := (load ⟨none, [[]], 0⟩ []).1
  c.set "backup" (c.get "parser" .null)

/-- A table under a key, and in itself. -/
def circular : Config :=
  let c := (load ⟨none, [[], []], 0⟩ []).1.set "a" (.table 1)
  c.set "a.b" (c.get "a" .null)

/-- What is set in a table shows under the other key of it too, and what is set in a table within
itself does not stand under the key that it was set under. -/
theorem get_of_set_shared :
    Apart (keyParts "backup.features") (keyParts "parser.features") ∧
      shared.get "parser.features" .null = .text "html5lib" ∧
      (shared.set "backup.features" (.text "lxml")).get "parser.features" .null = .text "lxml" ∧
      (circular.set "a.b.b" (.int 5)).get "a.b.b" .null = .null :=
  ⟨by decide, rfl, rfl, rfl⟩

/-- An item that no key reads, as a default must be that tells whether there is anything. -/
def Fresh (c : Config) (d : Item) : Prop :=
  ∀ key, c.get? key ≠ some d

/-- No key reads a table that is not there yet. -/
theorem fresh_table (hc : c.Sound) : c.Fresh (.table c.tables.length) := by
  intro key h
  rw [get?, get?_eq_follow? _ _ (keyParts_ne_nil key)] at h
  exact absurd (within_of_follow? (x := .table c.root) hc.tables hc.root h) (Nat.lt_irrefl _)

/-- Removing says yes just when the key reads something, which a default shows that no key reads;
then this key and all that go on from it read their defaults, and every other key that is straight
reads what it read before. Otherwise nothing changes. Where a straight key is set first and then
removed, others that are straight read what they read before, too. -/
theorem get_of_remove (hc : c.Sound) (key : String) :
    ((∃ d, c.Fresh d) ∧ ∀ d, c.Fresh d → ((c.remove key).1 = true ↔ c.get key d ≠ d)) ∧
    ((c.remove key).1 = true →
      (∀ other d, keyParts key <+: keyParts other → (c.remove key).2.get other d = d) ∧
      c.SparesOthers key (c.remove key).2) ∧
    ((c.remove key).1 = false → (c.remove key).2 = c) ∧
    ∀ x, x.Within c.tables.length → c.Straight key (names (keyParts key)) →
      ((c.set key x).remove key).1 = true ∧ c.SparesOthers key ((c.set key x).remove key).2 := by
  refine ⟨⟨⟨_, fresh_table hc⟩, fun d hd => ?_⟩, fun h => ⟨fun other d hk => ?_, ?_⟩, fun h => ?_,
    fun x hx hkey => ⟨remove_set_fst hc hkey x, sparesOthers_remove_set hc hkey hx⟩⟩
  · have hfresh := hd key
    rw [get?, get?_eq_follow? _ _ (keyParts_ne_nil key)] at hfresh
    rw [remove_fst, get_eq]
    cases hv : c.at? (names (keyParts key)) with
    | none => simp
    | some v => simpa using fun e => hfresh (hv.trans (congrArg some e))
  · obtain ⟨rest, hrest⟩ := hk
    rw [get_eq, ← hrest, names_append, at?_remove hc h]
    rfl
  · exact sparesOthers_remove hc key
  · rcases c.remove_cases key with ⟨left, -, heq⟩ | ⟨-, heq⟩
    · rw [heq] at h
      exact absurd h (by simp)
    · rw [heq]

/-- The null is removed, and a key that goes on from the text has nothing to remove. -/
theorem get_of_remove_small :
    small.Sound ∧ (small.remove "b.c").1 = true ∧
      (small.remove "b.c").2.get "b.c" (.int 7) = .int 7 ∧
      (small.remove "b.c").2.get "b.c.x" (.int 7) = .int 7 ∧
      (small.remove "b.c").2.get "b.d" .null = .int 2 ∧ (small.remove "a.x").2 = small ∧
      ((small.set "b.c" (.int 3)).remove "b.c").2.get "b.d" .null = .int 2 := by
  obtain ⟨⟨-, tells⟩, gone, -, again⟩ := get_of_remove sound_small "b.c"
  obtain ⟨-, -, missing, -⟩ := get_of_remove sound_small "a.x"
  have there : (small.remove "b.c").1 = true :=
    (tells _ (fresh_table sound_small)).mpr Item.noConfusion
  obtain ⟨defaults, others⟩ := gone there
  obtain ⟨-, spared⟩ := again (.int 3) trivial (by decide)
  exact ⟨sound_small, there, defaults "b.c" _ (by decide), defaults "b.c.x" _ (by decide),
    (others "b.d" (by decide)).1 (by decide) .null, missing rfl,
    (spared "b.d" (by decide)).1 (by decide) .null⟩

/-- What is removed from a table is gone under the other key of it too, whether it was there before
or has been set first. -/
theorem get_of_remove_shared :
    Apart (keyParts "backup.features") (keyParts "parser.features") ∧
      shared.get "parser.features" .null = .text "html5lib" ∧
      (shared.remove "backup.features").1 = true ∧
      (shared.remove "backup.features").2.get "parser.features" .null = .null ∧
      ((shared.set "backup.features" (.text "lxml")).remove "backup.features").2.get
        "parser.features" .null = .null :=
  ⟨by decide, rfl, rfl, rfl, rfl⟩

end TypedMarkup.Config
