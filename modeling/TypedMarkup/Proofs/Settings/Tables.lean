import TypedMarkup.Proofs.Entries
import TypedMarkup.Proofs.Value
import TypedMarkup.Settings

/-!
# Tables under their numbers

What is true of all tables that there are (`Tables.Sound`): each has its names once, and what stands
in them are tables that there are. All operations keep this (`sound_hold`, `sound_set`,
`Sound.erase`, `sound_merge`). The value that is read of an item then has distinct names
(`isProper_of_value?`).
-/

namespace TypedMarkup.Settings

mutual

/-- Every table in an item has one of the first `n` numbers. -/
def Item.Within (n : Nat) : Item → Prop
  | .null | .bool _ | .int _ | .double _ | .text _ => True
  | .list items => AllWithin n items
  | .table id => id < n

/-- The same of all items of a list. -/
def Item.AllWithin (n : Nat) : List Item → Prop
  | [] => True
  | x :: xs => x.Within n ∧ AllWithin n xs

end

mutual

theorem Item.Within.mono {n m : Nat} (h : n ≤ m) : (x : Item) → x.Within n → x.Within m
  | .null, _ | .bool _, _ | .int _, _ | .double _, _ | .text _, _ => trivial
  | .list items, hx => Item.AllWithin.mono h items hx
  | .table _, hx => Nat.lt_of_lt_of_le hx h

theorem Item.AllWithin.mono {n m : Nat} (h : n ≤ m) :
    (xs : List Item) → Item.AllWithin n xs → Item.AllWithin m xs
  | [], _ => trivial
  | x :: xs, hx => ⟨Item.Within.mono h x hx.1, Item.AllWithin.mono h xs hx.2⟩

end

theorem Item.allWithin_iff {n : Nat} {xs : List Item} :
    Item.AllWithin n xs ↔ ∀ x ∈ xs, x.Within n := by
  induction xs with
  | nil => simp [Item.AllWithin]
  | cons x xs ih => rw [Item.AllWithin, ih, List.forall_mem_cons]

namespace Tables

variable {ts : Tables} {id k : Nat} {name : String} {x : Item} {es : Entries Item}

/-! ## Entries -/

theorem entries_of_le (h : ts.length ≤ id) : ts.entries id = [] := by
  rw [entries, List.getElem?_eq_none h]
  rfl

theorem entries_append (new : Tables) (h : id < ts.length) :
    entries (ts ++ new) id = ts.entries id := by
  rw [entries, List.getElem?_append_left h]
  rfl

theorem entries_concat (ts : Tables) (es : Entries Item) : entries (ts ++ [es]) ts.length = es := by
  rw [entries, List.getElem?_concat_length]
  rfl

theorem length_put (ts : Tables) (id : Nat) (name : String) (x : Item) :
    (ts.put id name x).length = ts.length :=
  List.length_modify ..

theorem length_erase (ts : Tables) (id : Nat) (name : String) :
    (ts.erase id name).length = ts.length :=
  List.length_modify ..

/-- A change in one table. -/
theorem entries_modify (ts : Tables) (id : Nat) (f : Entries Item → Entries Item) (k : Nat) :
    entries (ts.modify id f) k =
      if k = id ∧ id < ts.length then f (ts.entries id) else ts.entries k := by
  rw [entries, List.getElem?_modify]
  by_cases hk : k = id
  · by_cases hlt : id < ts.length
    · rw [if_pos ⟨hk, hlt⟩, hk, entries, List.getElem?_eq_getElem hlt]
      simp
    · rw [if_neg fun h => hlt h.2, hk, entries, List.getElem?_eq_none (Nat.le_of_not_lt hlt)]
      rfl
  · rw [if_neg fun h => hk h.1, entries]
    simp [Ne.symm hk]

theorem entries_put_self (name : String) (x : Item) (h : id < ts.length) :
    (ts.put id name x).entries id = Entries.put name x (ts.entries id) := by
  rw [put, entries_modify, if_pos ⟨rfl, h⟩]

theorem entries_put_of_ne (name : String) (x : Item) (h : k ≠ id) :
    (ts.put id name x).entries k = ts.entries k := by
  rw [put, entries_modify, if_neg fun e => h e.1]

/-- Only a table that there is has entries. -/
theorem lt_of_find? (h : Entries.find? name (ts.entries id) = some x) : id < ts.length := by
  by_contra hle
  rw [entries_of_le (Nat.le_of_not_lt hle)] at h
  exact absurd h (by simp [Entries.find?])

/-! ## Soundness -/

/-- Each table has its names once, and there are all tables that stand in some. -/
structure Sound (ts : Tables) : Prop where
  names : ∀ id, (ts.entries id).names.Nodup
  closed : ∀ id name x, Entries.find? name (ts.entries id) = some x → x.Within ts.length

theorem sound_nil : Sound [] :=
  ⟨fun _ => List.nodup_nil, fun _ _ _ h => absurd (lt_of_find? h) (Nat.not_lt_zero _)⟩

/-- Another table with distinct names, in which only tables stand that there are then. -/
theorem Sound.concat (h : ts.Sound) (hn : es.names.Nodup)
    (hx : ∀ name x, Entries.find? name es = some x → x.Within (ts.length + 1)) :
    Sound (ts ++ [es]) := by
  have hcases (k : Nat) : entries (ts ++ [es]) k = ts.entries k ∨ entries (ts ++ [es]) k = es := by
    rcases Nat.lt_trichotomy k ts.length with hk | rfl | hk
    · exact .inl (entries_append [es] hk)
    · exact .inr (entries_concat ts es)
    · rw [entries_of_le (by simpa [Nat.succ_le_iff] using hk), entries_of_le (Nat.le_of_lt hk)]
      exact .inl rfl
  refine ⟨fun k => ?_, fun k name x hfind => ?_⟩
  · rcases hcases k with hk | hk <;> rw [hk]
    · exact h.names k
    · exact hn
  · rw [List.length_append, List.length_singleton]
    rcases hcases k with hk | hk <;> rw [hk] at hfind
    · exact (h.closed k name x hfind).mono (Nat.le_succ _)
    · exact hx name x hfind

theorem Sound.put (h : ts.Sound) (hx : x.Within ts.length) (id : Nat) (name : String) :
    (ts.put id name x).Sound := by
  refine ⟨fun k => ?_, fun k n y hfind => ?_⟩
  · rw [Tables.put, entries_modify]
    split
    · exact Entries.nodup_names_put (h.names id)
    · exact h.names k
  · rw [length_put]
    rw [Tables.put, entries_modify] at hfind
    split at hfind
    · rw [Entries.find?_put] at hfind
      split at hfind
      · exact Option.some.inj hfind ▸ hx
      · exact h.closed id n y hfind
    · exact h.closed k n y hfind

theorem Sound.erase (h : ts.Sound) (id : Nat) (name : String) : (ts.erase id name).Sound := by
  refine ⟨fun k => ?_, fun k n y hfind => ?_⟩
  · rw [Tables.erase, entries_modify]
    split
    · exact Entries.nodup_names_erase (h.names id) name
    · exact h.names k
  · rw [length_erase]
    rw [Tables.erase, entries_modify] at hfind
    split at hfind
    · by_cases hn : n = name
      · rw [hn, Entries.find?_erase_self (h.names id)] at hfind
        exact absurd hfind (by simp)
      · rw [Entries.find?_erase_of_ne hn] at hfind
        exact h.closed id n y hfind
    · exact h.closed k n y hfind

/-! ## New values -/

mutual

theorem length_hold (ts : Tables) : (v : Value) → ts.length ≤ (ts.hold v).2.length
  | .null | .bool _ | .int _ | .double _ | .text _ => Nat.le_refl _
  | .list vs => length_holdItems ts vs
  | .table es => by
    have hle := length_holdEntries ts es
    rw [hold, List.length_append]
    exact Nat.le_add_right_of_le hle

theorem length_holdItems (ts : Tables) : (vs : List Value) →
    ts.length ≤ (ts.holdItems vs).2.length
  | [] => Nat.le_refl _
  | v :: vs => Nat.le_trans (length_hold ts v) (length_holdItems (ts.hold v).2 vs)

theorem length_holdEntries (ts : Tables) : (es : List (String × Value)) →
    ts.length ≤ (ts.holdEntries es).2.length
  | [] => Nat.le_refl _
  | (_, v) :: rest => Nat.le_trans (length_hold ts v) (length_holdEntries (ts.hold v).2 rest)

end

theorem names_holdEntries (ts : Tables) (es : List (String × Value)) :
    Entries.names (ts.holdEntries es).1 = Entries.names es := by
  induction es generalizing ts with
  | nil => rfl
  | cons e rest ih => exact congrArg (e.1 :: ·) (ih (ts.hold e.2).2)

mutual

theorem sound_hold : (v : Value) → {ts : Tables} → ts.Sound → v.IsProper →
    (ts.hold v).2.Sound ∧ (ts.hold v).1.Within (ts.hold v).2.length
  | .null, _, h, _ | .bool _, _, h, _ | .int _, _, h, _ | .double _, _, h, _ | .text _, _, h, _ =>
    ⟨h, trivial⟩
  | .list vs, _, h, hv => sound_holdItems vs h hv
  | .table es, ts, h, hv => by
    obtain ⟨hsound, hwithin⟩ := sound_holdEntries es h hv.2
    have hn : Entries.names (ts.holdEntries es).1 |>.Nodup := by
      rw [names_holdEntries]
      exact hv.1
    rw [hold]
    refine ⟨hsound.concat hn fun name x hx => ?_, ?_⟩
    · exact (hwithin _ (Entries.mem_of_find? hx)).mono (Nat.le_succ _)
    · simp [Item.Within]

theorem sound_holdItems : (vs : List Value) → {ts : Tables} → ts.Sound → Value.AllProper vs →
    (ts.holdItems vs).2.Sound ∧ Item.AllWithin (ts.holdItems vs).2.length (ts.holdItems vs).1
  | [], _, h, _ => ⟨h, trivial⟩
  | v :: vs, ts, h, hv => by
    obtain ⟨hsound, hwithin⟩ := sound_hold v h hv.1
    obtain ⟨hrest, hall⟩ := sound_holdItems vs hsound hv.2
    exact ⟨hrest, hwithin.mono (length_holdItems _ vs), hall⟩

theorem sound_holdEntries : (es : List (String × Value)) → {ts : Tables} → ts.Sound →
    Value.EntriesProper es → (ts.holdEntries es).2.Sound ∧
      ∀ e ∈ (ts.holdEntries es).1, e.2.Within (ts.holdEntries es).2.length
  | [], _, h, _ => ⟨h, fun _ he => absurd he List.not_mem_nil⟩
  | (name, v) :: rest, ts, h, hv => by
    obtain ⟨hsound, hwithin⟩ := sound_hold v h hv.1
    obtain ⟨hrest, hall⟩ := sound_holdEntries rest hsound hv.2
    exact ⟨hrest, List.forall_mem_cons.mpr ⟨hwithin.mono (length_holdEntries _ rest), hall⟩⟩

end

/-! ## Operations -/

theorem sound_append_empty (h : ts.Sound) : Sound (ts ++ [[]]) :=
  h.concat List.nodup_nil fun _ _ hx => absurd hx (by simp [Entries.find?])

theorem inner?_eq_some {inner : Nat} :
    ts.inner? id name = some inner ↔ Entries.find? name (ts.entries id) = some (.table inner) := by
  unfold inner?
  split <;> simp_all

/-- Setting an item that there is makes some more tables at most. -/
theorem sound_set : (parts : List String) → {ts : Tables} → (id : Nat) → ts.Sound →
    x.Within ts.length → (ts.set parts x id).Sound ∧ ts.length ≤ (ts.set parts x id).length
  | [], _, _, h, _ => ⟨h, Nat.le_refl _⟩
  | [part], ts, id, h, hx => ⟨h.put hx id part, Nat.le_of_eq (length_put ts id part x).symm⟩
  | part :: next :: rest, ts, id, h, hx => by
    rw [set]
    cases ts.inner? id part with
    | some inner => exact sound_set (next :: rest) inner h hx
    | none =>
      have hlength : (put (ts ++ [[]]) id part (.table ts.length)).length = ts.length + 1 := by
        rw [length_put, List.length_append, List.length_singleton]
      have hnew : (Item.table ts.length).Within (ts ++ [[]]).length := by
        simp [Item.Within]
      have hx' : x.Within (put (ts ++ [[]]) id part (.table ts.length)).length :=
        hlength ▸ Item.Within.mono (Nat.le_succ _) x hx
      obtain ⟨hsound, hle⟩ := sound_set (next :: rest) ts.length
        ((sound_append_empty h).put hnew id part) hx'
      exact ⟨hsound, Nat.le_trans (hlength ▸ Nat.le_succ _) hle⟩

theorem Sound.putNew {v : Value} (h : ts.Sound) (hv : v.IsProper) (id : Nat) (name : String) :
    (ts.putNew id name v).Sound := by
  obtain ⟨hsound, hwithin⟩ := sound_hold v h hv
  exact hsound.put hwithin id name

mutual

theorem sound_lay (id : Nat) (name : String) : (v : Value) → {ts : Tables} → ts.Sound →
    v.IsProper → (ts.lay id name v).Sound
  | .null, _, h, hv | .bool _, _, h, hv | .int _, _, h, hv | .double _, _, h, hv
  | .text _, _, h, hv | .list _, _, h, hv => h.putNew hv id name
  | .table es, ts, h, hv => by
    rw [lay]
    cases ts.inner? id name with
    | some inner => exact sound_merge inner es h hv.2
    | none => exact h.putNew hv id name

theorem sound_merge (id : Nat) : (es : List (String × Value)) → {ts : Tables} → ts.Sound →
    Value.EntriesProper es → (ts.merge id es).Sound
  | [], _, h, _ => h
  | (name, v) :: rest, ts, h, hv => by
    rw [merge]
    exact sound_merge id rest (sound_lay id name v h hv.1) hv.2

end

/-! ## Values that are read -/

section Reading

variable {table : Nat → Option Value}

mutual

theorem isProper_of_itemValue? (htable : ∀ id v, table id = some v → v.IsProper) :
    (x : Item) → {v : Value} → itemValue? table x = some v → v.IsProper
  | .null, _, h | .bool _, _, h | .int _, _, h | .double _, _, h | .text _, _, h => by
    rw [← Option.some.inj h]
    exact trivial
  | .list xs, v, h => by
    obtain ⟨vs, hvs, rfl⟩ := Option.map_eq_some_iff.mp h
    exact isProper_of_itemValues? htable xs hvs
  | .table id, v, h => htable id v h

theorem isProper_of_itemValues? (htable : ∀ id v, table id = some v → v.IsProper) :
    (xs : List Item) → {vs : List Value} → itemValues? table xs = some vs → Value.AllProper vs
  | [], vs, h => by
    rw [← Option.some.inj h]
    exact trivial
  | x :: xs, vs, h => by
    obtain ⟨v, hv, h⟩ := Option.bind_eq_some_iff.mp h
    obtain ⟨vs', hvs, h⟩ := Option.bind_eq_some_iff.mp h
    rw [← Option.some.inj h]
    exact ⟨isProper_of_itemValue? htable x hv, isProper_of_itemValues? htable xs hvs⟩

end

/-- The values of entries stand under the same names. -/
theorem names_of_entryValues? {vs : Entries Value} (h : entryValues? table es = some vs) :
    vs.names = es.names := by
  induction es generalizing vs with
  | nil => rw [← Option.some.inj h]; rfl
  | cons e rest ih =>
    obtain ⟨v, -, h⟩ := Option.bind_eq_some_iff.mp h
    obtain ⟨vs', hvs, h⟩ := Option.bind_eq_some_iff.mp h
    rw [← Option.some.inj h]
    exact congrArg (e.1 :: ·) (ih hvs)

theorem entriesProper_of_entryValues? (htable : ∀ id v, table id = some v → v.IsProper)
    {vs : Entries Value} (h : entryValues? table es = some vs) : Value.EntriesProper vs := by
  induction es generalizing vs with
  | nil => rw [← Option.some.inj h]; exact trivial
  | cons e rest ih =>
    obtain ⟨v, hv, h⟩ := Option.bind_eq_some_iff.mp h
    obtain ⟨vs', hvs, h⟩ := Option.bind_eq_some_iff.mp h
    rw [← Option.some.inj h]
    exact ⟨isProper_of_itemValue? htable e.2 hv, ih hvs⟩

end Reading

theorem isProper_of_tableValue? (h : ts.Sound) (depth : Nat) {way : List Nat} {v : Value}
    (hv : ts.tableValue? none depth way id = some v) : v.IsProper := by
  induction depth generalizing way id v with
  | zero => exact absurd hv (by simp [tableValue?])
  | succ depth ih =>
    rw [tableValue?] at hv
    split at hv
    · exact absurd hv (by simp)
    · obtain ⟨es, hes, hv⟩ := Option.bind_eq_some_iff.mp hv
      obtain ⟨vs, hvs, hv⟩ := Option.bind_eq_some_iff.mp hv
      have hn : es.names.Nodup := by
        have := h.names id
        rwa [entries, hes] at this
      rw [← Option.some.inj hv]
      exact ⟨names_of_entryValues? hvs ▸ hn,
        entriesProper_of_entryValues? (fun _ _ hw => ih hw) hvs⟩

/-- The value of an item has distinct names. -/
theorem isProper_of_value? {v : Value} (h : ts.Sound) (hv : ts.value? x = some v) :
    v.IsProper :=
  isProper_of_itemValue? (fun _ _ hw => isProper_of_tableValue? h _ hw) x hv

end Tables

end TypedMarkup.Settings
