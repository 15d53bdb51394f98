import Mathlib.Data.List.Infix
import TypedMarkup.Proofs.Settings.Tables

/-!
# Ways through tables

What steps lead to from an item: by names through tables and by places through lists (`follow?`). A
key is such a way by its parts alone. Setting and removing change a single entry of a table that was
there, the `Slot` of the key, and a way that does not come to this entry leads to the same as before
(`follow?_of_changedAt`). A table may stand in several places, so that ways come to the slot which
have nothing to do with the key.

* `slot_spec`: what leads to the slot of a key, and that setting and removing begin there;
* `set_spec`: what setting changes;
* `follow?_of_apart`: what other keys lead to, if they come to the slot only as the key does.
-/

namespace TypedMarkup.Settings

/-- A step from an item: to what stands under a name in a table, or at a place in a list. -/
inductive Step where
  | name (name : String)
  | place (index : Nat)
  deriving DecidableEq

/-- The steps along the parts of a key. -/
def names (parts : List String) : List Step :=
  parts.map .name

/-- An entry of a table, and the parts of a key that lead to the table. -/
structure Slot where
  above : List String
  table : Nat
  name : String

/-- Neither list leads on from the other: they part somewhere. -/
def Apart (a b : List String) : Prop :=
  ¬ a <+: b ∧ ¬ b <+: a

instance (a b : List String) : Decidable (Apart a b) :=
  inferInstanceAs (Decidable (_ ∧ _))

variable {a b rest parts : List String} {name part : String}

theorem names_append (a b : List String) : names (a ++ b) = names a ++ names b :=
  List.map_append

theorem names_prefix_iff : names a <+: names b ↔ a <+: b := by
  refine ⟨fun ⟨way, h⟩ => ?_, fun ⟨c, h⟩ => ⟨names c, by rw [← names_append, h]⟩⟩
  obtain ⟨u, v, rfl, hu, -⟩ := List.map_eq_append_iff.mp h.symm
  exact List.map_injective_iff.mpr (fun _ _ e => Step.name.inj e) hu ▸ List.prefix_append u v

theorem Apart.of_append (parts : List String) (h : Apart (parts ++ a) (parts ++ b)) : Apart a b :=
  ⟨fun hp => h.1 (List.prefix_append_right_inj parts |>.mpr hp),
    fun hp => h.2 (List.prefix_append_right_inj parts |>.mpr hp)⟩

theorem Apart.ne_nil (h : Apart a b) : a ≠ [] := fun ha => h.1 (ha ▸ List.nil_prefix)

theorem Apart.symm (h : Apart a b) : Apart b a := ⟨h.2, h.1⟩

/-- Where a way that begins as a key apart goes on as the other key, the keys part further on. -/
theorem Apart.exists_of_prefix {way : List Step} (h : Apart (a ++ name :: rest) b)
    (hway : names (a ++ [name]) <+: names b ++ way) :
    ∃ w, b = a ++ name :: w ∧ Apart rest w := by
  rcases List.prefix_or_prefix_of_prefix hway (List.prefix_append (names b) way) with hp | hp
  · obtain ⟨w, rfl⟩ := names_prefix_iff.mp hp
    refine ⟨w, by simp, Apart.of_append (a ++ [name]) ?_⟩
    simpa using h
  · have hb : b <+: a ++ name :: rest :=
      (names_prefix_iff.mp hp).trans ⟨rest, by simp⟩
    exact absurd hb h.2

namespace Tables

variable {ts ts' : Tables} {id inner : Nat} {x y : Item} {way : List Step}

/-! ## Ways -/

/-- What one step leads to from an item. -/
def step? (ts : Tables) : Step → Item → Option Item
  | .name name, .table id => Entries.find? name (ts.entries id)
  | .place index, .list items => items[index]?
  | _, _ => none

/-- What a way leads to from an item. -/
def follow? (ts : Tables) : List Step → Item → Option Item
  | [], x => some x
  | step :: way, x => (ts.step? step x).bind (ts.follow? way)

theorem follow?_cons (ts : Tables) (step : Step) (way : List Step) (x : Item) :
    ts.follow? (step :: way) x = (ts.step? step x).bind (ts.follow? way) := rfl

theorem follow?_append (ts : Tables) (a b : List Step) (x : Item) :
    ts.follow? (a ++ b) x = (ts.follow? a x).bind (ts.follow? b) := by
  induction a generalizing x with
  | nil => rfl
  | cons step a ih =>
    rw [List.cons_append, follow?_cons, follow?_cons, Option.bind_assoc]
    exact congrArg _ (funext ih)

/-- A name leads on from tables only. -/
theorem follow?_name_of_not_table (hx : ∀ id, x ≠ .table id) (name : String) (way : List Step) :
    ts.follow? (.name name :: way) x = none := by
  cases x with
  | table id => exact absurd rfl (hx id)
  | _ => rfl

/-- Only a table leads anywhere by names. -/
theorem exists_table_of_follow? (hrest : rest ≠ []) (h : ts.follow? (names rest) x = some y) :
    ∃ id, x = .table id := by
  obtain ⟨name, rest, rfl⟩ := List.exists_cons_of_ne_nil hrest
  by_contra hno
  rw [names, List.map_cons, follow?_name_of_not_table (not_exists.mp hno)] at h
  exact absurd h (by simp)

/-- What is no table under a name leads no further by names. -/
theorem follow?_of_inner?_eq_none (h : ts.inner? id name = none) (hrest : rest ≠ [])
    (way : List Step) : ts.follow? (names (name :: rest) ++ way) (.table id) = none := by
  obtain ⟨next, rest, rfl⟩ := List.exists_cons_of_ne_nil hrest
  refine Option.bind_eq_none_iff.mpr fun x hx => follow?_name_of_not_table (fun inner e => ?_) _ _
  rw [inner?_eq_some.mpr (e ▸ hx)] at h
  exact absurd h (by simp)

theorem follow?_inner (h : ts.inner? id name = some inner) (way : List Step) :
    ts.follow? (.name name :: way) (.table id) = ts.follow? way (.table inner) := by
  rw [follow?_cons, step?, inner?_eq_some.mp h, Option.bind_some]

/-- A key reads what its parts lead to. -/
theorem get?_eq_follow? : (parts : List String) → (id : Nat) → parts ≠ [] →
    ts.get? parts id = ts.follow? (names parts) (.table id)
  | [part], id, _ => by
    rw [get?, names, List.map_singleton, follow?_cons, step?]
    cases Entries.find? part (ts.entries id) <;> rfl
  | part :: next :: rest, id, _ => by
    rw [get?]
    cases h : ts.inner? id part with
    | none =>
      have hnone := follow?_of_inner?_eq_none h (List.cons_ne_nil next rest) []
      rw [List.append_nil] at hnone
      rw [hnone, Option.bind_none]
    | some inner =>
      rw [Option.bind_some, get?_eq_follow? (next :: rest) inner (List.cons_ne_nil _ _)]
      exact (follow?_inner h _).symm

/-- Steps lead to tables that there are. -/
theorem within_of_step? (hs : ts.Sound) (hx : x.Within ts.length) {step : Step}
    (h : ts.step? step x = some y) : y.Within ts.length := by
  unfold step? at h
  split at h
  · exact hs.closed _ _ y h
  · exact Item.allWithin_iff.mp hx y (List.mem_of_getElem? h)
  · exact absurd h (by simp)

theorem within_of_follow? (hs : ts.Sound) (hx : x.Within ts.length)
    (h : ts.follow? way x = some y) : y.Within ts.length := by
  induction way generalizing x with
  | nil => exact Option.some.inj h ▸ hx
  | cons step way ih =>
    obtain ⟨z, hz, h⟩ := Option.bind_eq_some_iff.mp h
    exact ih (within_of_step? hs hx hz) h

/-! ## A change in one entry -/

/-- Of the tables that there were, at most one entry is another. -/
def ChangedAt (id : Nat) (name : String) (ts ts' : Tables) : Prop :=
  ∀ k, k < ts.length → ∀ n, ¬ (k = id ∧ n = name) →
    Entries.find? n (ts'.entries k) = Entries.find? n (ts.entries k)

theorem step?_of_changedAt (h : ChangedAt id name ts ts') (hx : x.Within ts.length) {step : Step}
    (hout : step = .name name → x ≠ .table id) : ts'.step? step x = ts.step? step x := by
  unfold step?
  split
  · exact h _ hx _ fun ⟨hk, hn⟩ => hout (congrArg _ hn) (congrArg _ hk)
  · rfl
  · rfl

/-- A way that does not come to the entry leads to the same. -/
theorem follow?_of_changedAt (hs : ts.Sound) (h : ChangedAt id name ts ts')
    (hx : x.Within ts.length)
    (hout : ∀ above, above ++ [.name name] <+: way → ts.follow? above x ≠ some (.table id)) :
    ts'.follow? way x = ts.follow? way x := by
  induction way generalizing x with
  | nil => rfl
  | cons step way ih =>
    have hstep : ts'.step? step x = ts.step? step x := step?_of_changedAt h hx fun hn hx =>
      hout [] (by simp [hn]) (congrArg some hx)
    rw [follow?_cons, follow?_cons, hstep]
    refine Option.bind_congr fun y hy => ih (within_of_step? hs hx hy) fun above hp hread => ?_
    refine hout (step :: above) (List.cons_prefix_cons.mpr ⟨rfl, hp⟩) ?_
    rw [follow?_cons, hy, Option.bind_some, hread]

/-! ## The slot of a key -/

/-- The entry that setting changes: in the last table on the way, under the part that comes next. -/
def slot (ts : Tables) : (parts : List String) → (id : Nat) → Slot
  | [], id => ⟨[], id, ""⟩
  | [part], id => ⟨[], id, part⟩
  | part :: next :: rest, id =>
    match ts.inner? id part with
    | some inner =>
      let s := ts.slot (next :: rest) inner
      ⟨part :: s.above, s.table, s.name⟩
    | none => ⟨[], id, part⟩

/-- What the slot of a key is: its first parts lead to the table of the slot and no further, and
operations on the key begin there. -/
structure SlotSpec (ts : Tables) (parts : List String) (id : Nat) (s : Slot) (rest : List String) :
    Prop where
  parts_eq : parts = s.above ++ s.name :: rest
  leads : ts.follow? (names s.above) (.table id) = some (.table s.table)
  there : s.table < ts.length
  last : rest ≠ [] → ts.inner? s.table s.name = none
  set_eq : ∀ x, ts.set parts x id = ts.set (s.name :: rest) x s.table
  remove_eq : ts.remove? parts id = ts.remove? (s.name :: rest) s.table

theorem slot_spec (hs : ts.Sound) : (parts : List String) → (id : Nat) → parts ≠ [] →
    id < ts.length → ∃ rest, SlotSpec ts parts id (ts.slot parts id) rest
  | [part], id, _, hid => ⟨[], rfl, rfl, hid, fun h => absurd rfl h, fun _ => rfl, rfl⟩
  | part :: next :: rest, id, _, hid => by
    rw [slot]
    cases h : ts.inner? id part with
    | none => exact ⟨next :: rest, rfl, rfl, hid, fun _ => h, fun _ => rfl, rfl⟩
    | some inner =>
      have hinner : inner < ts.length := hs.closed id part _ (inner?_eq_some.mp h)
      obtain ⟨left, spec⟩ := slot_spec hs (next :: rest) inner (List.cons_ne_nil _ _) hinner
      refine ⟨left, congrArg (part :: ·) spec.parts_eq, ?_, spec.there, spec.last, fun x => ?_, ?_⟩
      · exact (follow?_inner h _).trans spec.leads
      · rw [set, h]
        exact spec.set_eq x
      · rw [remove?, h, Option.bind_some]
        exact spec.remove_eq

/-! ## Setting -/

/-- Parts that lead from an item over new tables, each with a single entry, to another item. -/
inductive Chain (ts : Tables) (new : Nat) (x : Item) : List String → Item → Prop where
  | done : Chain ts new x [] x
  | next {part : String} {rest : List String} {id : Nat} {y : Item} (fresh : new ≤ id)
      (single : ts.entries id = [(part, y)]) (onward : Chain ts new x rest y) :
      Chain ts new x (part :: rest) (.table id)

variable {new : Nat}

theorem Chain.mono {old : Nat} (hle : new ≤ old) (h : Chain ts old x rest y) :
    Chain ts new x rest y := by
  induction h with
  | done => exact .done
  | next fresh single _ ih => exact .next (Nat.le_trans hle fresh) single ih

/-- The only name of a table in a chain. -/
theorem follow?_of_single (h : ts.entries id = [(part, y)]) (way : List Step) :
    ts.follow? (.name part :: way) (.table id) = ts.follow? way y := by
  rw [follow?_cons, step?, h, Entries.find?, if_pos rfl, Option.bind_some]

theorem Chain.follow?_eq (h : Chain ts new x rest y) : ts.follow? (names rest) y = some x := by
  induction h with
  | done => rfl
  | next _ single _ ih => exact (follow?_of_single single _).trans ih

/-- Parts that go another way lead nowhere. -/
theorem Chain.follow?_of_apart (h : Chain ts new x rest y) (hb : Apart rest b) (way : List Step) :
    ts.follow? (names b ++ way) y = none := by
  induction h generalizing b with
  | done => exact absurd rfl hb.ne_nil
  | @next part rest id y _ single _ ih =>
    obtain ⟨n, b, rfl⟩ := List.exists_cons_of_ne_nil hb.symm.ne_nil
    by_cases hn : part = n
    · subst hn
      exact (follow?_of_single single _).trans (ih (Apart.of_append [part] hb))
    · rw [names, List.map_cons, List.cons_append, follow?_cons, step?, single, Entries.find?,
        if_neg hn]
      rfl

/-- Before the end there is a new table. -/
theorem Chain.follow?_of_append (h : Chain ts new x (a ++ part :: b) y) :
    ∃ id, new ≤ id ∧ ts.follow? (names a) y = some (.table id) := by
  induction a generalizing y with
  | nil =>
    cases h with
    | next fresh _ _ => exact ⟨_, fresh, rfl⟩
  | cons n a ih =>
    cases h with
    | next _ single onward =>
      obtain ⟨k, hk, hread⟩ := ih onward
      exact ⟨k, hk, (follow?_of_single single _).trans hread⟩

/-- What setting does in a table where the parts lead no further: an item is put under the first of
them, which leads over new tables to the item set. By induction on the other parts. -/
theorem chain_set (x : Item) (rest : List String) {ts : Tables} {id : Nat} {name : String}
    (hid : id < ts.length) (hlast : rest ≠ [] → ts.inner? id name = none) :
    ∃ y, Chain (ts.set (name :: rest) x id) ts.length x rest y ∧ ∀ k < ts.length,
      (ts.set (name :: rest) x id).entries k =
        if k = id then Entries.put name y (ts.entries k) else ts.entries k := by
  induction rest generalizing ts id name with
  | nil =>
    refine ⟨x, .done, fun k _ => ?_⟩
    split
    · subst k
      exact entries_put_self name x hid
    · exact entries_put_of_ne name x ‹_›
  | cons next rest ih =>
    rw [set, hlast (List.cons_ne_nil _ _)]
    generalize hmid : put (ts ++ [[]]) id name (.table ts.length) = mid
    have hlength : mid.length = ts.length + 1 := by
      rw [← hmid, length_put, List.length_append, List.length_singleton]
    have hnew : mid.entries ts.length = [] := by
      rw [← hmid, entries_put_of_ne _ _ (Nat.ne_of_gt hid), entries_concat]
    have hinner : mid.inner? ts.length next = none := by
      rw [inner?, hnew]
      rfl
    obtain ⟨y, onward, hentries⟩ := ih (hlength ▸ Nat.lt_succ_self _) fun _ => hinner
    refine ⟨.table ts.length, .next (Nat.le_refl _) ?_ (onward.mono ?_), fun k hk => ?_⟩
    · rw [hentries _ (hlength ▸ Nat.lt_succ_self _), if_pos rfl, hnew]
      rfl
    · exact hlength ▸ Nat.le_succ _
    · rw [hentries k (hlength ▸ Nat.lt_succ_of_lt hk), if_neg (Nat.ne_of_lt hk), ← hmid]
      split
      · rename_i h
        rw [h, entries_put_self _ _ (by simpa using Nat.lt_succ_of_lt hid), entries_append _ hid]
      · rw [entries_put_of_ne _ _ ‹_›, entries_append _ hk]

theorem changedAt_of_entries (h : ∀ k < ts.length,
    ts'.entries k = if k = id then Entries.put name y (ts.entries k) else ts.entries k) :
    ChangedAt id name ts ts' := by
  intro k hk n hn
  rw [h k hk]
  split
  · rw [Entries.find?_put, if_neg fun e => hn ⟨‹_›, e⟩]
  · rfl

/-- What setting an item changes: the slot, from where the rest of the key leads over new tables to
the item, and any other way to nothing. -/
structure SetSpec (ts ts' : Tables) (s : Slot) (rest : List String) (x : Item) : Prop where
  changed : ChangedAt s.table s.name ts ts'
  reached : ts'.follow? (names (s.name :: rest)) (.table s.table) = some x
  between : ∀ a part b, rest = a ++ part :: b →
    ∃ k, ts.length ≤ k ∧ ts'.follow? (names (s.name :: a)) (.table s.table) = some (.table k)
  beyond : ∀ w way, Apart rest w →
    ts'.follow? (names (s.name :: w) ++ way) (.table s.table) = none

theorem set_spec {s : Slot} (spec : SlotSpec ts parts id s rest) (x : Item) :
    SetSpec ts (ts.set parts x id) s rest x := by
  obtain ⟨y, hchain, hentries⟩ := chain_set x rest spec.there spec.last
  rw [← spec.set_eq x] at hchain hentries
  have hslot : (ts.set parts x id).step? (.name s.name) (.table s.table) = some y := by
    rw [step?, hentries _ spec.there, if_pos rfl, Entries.find?_put, if_pos rfl]
  have hstep (way : List Step) : (ts.set parts x id).follow? (.name s.name :: way)
      (.table s.table) = (ts.set parts x id).follow? way y := by
    rw [follow?_cons, hslot, Option.bind_some]
  refine ⟨changedAt_of_entries hentries, ?_, fun a part b h => ?_, fun w way hw => ?_⟩
  · exact (hstep _).trans hchain.follow?_eq
  · subst h
    obtain ⟨k, hk, hread⟩ := hchain.follow?_of_append
    exact ⟨k, hk, (hstep _).trans hread⟩
  · exact (hstep _).trans (hchain.follow?_of_apart hw way)

/-! ## Removing -/

/-- Taking out the entry that was changed, or one of a new table, changes nothing else. -/
theorem ChangedAt.erase {k : Nat} {n : String} (h : ChangedAt id name ts ts')
    (hk : k = id ∧ n = name ∨ ts.length ≤ k) : ChangedAt id name ts (ts'.erase k n) := by
  intro j hj m hm
  rw [← h j hj m hm, Tables.erase, entries_modify]
  split
  · rename_i hjk
    rcases hk with ⟨rfl, rfl⟩ | hle
    · rw [Entries.find?_erase_of_ne fun e => hm ⟨hjk.1, e⟩, hjk.1]
    · exact absurd hj (Nat.not_lt.mpr (hjk.1 ▸ hle))
  · rfl

theorem changedAt_erase (ts : Tables) (id : Nat) (name : String) :
    ChangedAt id name ts (ts.erase id name) :=
  ChangedAt.erase (fun _ _ _ _ => rfl) (.inl ⟨rfl, rfl⟩)

theorem find?_erase_self (hs : ts.Sound) (id : Nat) (name : String) :
    Entries.find? name ((ts.erase id name).entries id) = none := by
  rw [erase, entries_modify]
  split
  · exact Entries.find?_erase_self (hs.names id)
  · rename_i hno
    rw [entries_of_le (Nat.le_of_not_lt fun hlt => hno ⟨rfl, hlt⟩)]
    rfl

/-- Taking an entry out only loses what steps lead to. -/
theorem step?_of_erase (hs : ts.Sound) {step : Step} (h : (ts.erase id name).step? step x = some y)
    (hx : x.Within ts.length) : ts.step? step x = some y := by
  rw [← step?_of_changedAt (changedAt_erase ts id name) hx fun hstep hx => ?_, h]
  rw [hstep, hx, step?, find?_erase_self hs] at h
  exact absurd h (by simp)

theorem follow?_of_erase (hs : ts.Sound) (hx : x.Within ts.length)
    (h : (ts.erase id name).follow? way x = some y) : ts.follow? way x = some y := by
  induction way generalizing x with
  | nil => exact h
  | cons step way ih =>
    obtain ⟨z, hz, h⟩ := Option.bind_eq_some_iff.mp h
    have hstep := step?_of_erase hs hz hx
    rw [follow?_cons, hstep, Option.bind_some, ih (within_of_step? hs hx hstep) h]

/-- What was removed was the entry of the slot, and the key ended there. -/
theorem SlotSpec.of_remove? {s : Slot} {left : Tables} (h : SlotSpec ts parts id s rest)
    (hleft : ts.remove? parts id = some left) : rest = [] ∧ left = ts.erase s.table s.name := by
  rw [h.remove_eq] at hleft
  cases rest with
  | nil =>
    rw [remove?] at hleft
    split at hleft
    · exact ⟨rfl, (Option.some.inj hleft).symm⟩
    · exact absurd hleft (by simp)
  | cons next rest =>
    rw [remove?, h.last (List.cons_ne_nil _ _)] at hleft
    exact absurd hleft (by simp)

/-- There is something to remove just when the key reads something. -/
theorem isSome_remove? : (parts : List String) → (id : Nat) →
    (ts.remove? parts id).isSome = (ts.get? parts id).isSome
  | [], _ => rfl
  | [part], id => by
    rw [remove?, get?, Entries.has]
    split <;> simp_all
  | part :: next :: rest, id => by
    rw [remove?, get?]
    cases ts.inner? id part with
    | none => rfl
    | some inner => exact isSome_remove? (next :: rest) inner

/-- What has been removed leads nowhere. -/
theorem follow?_of_remove? {left : Tables} (hs : ts.Sound) (hparts : parts ≠ [])
    (hid : id < ts.length) (hleft : ts.remove? parts id = some left) (way : List Step) :
    left.follow? (names parts ++ way) (.table id) = none := by
  obtain ⟨rest, spec⟩ := slot_spec hs parts id hparts hid
  generalize ts.slot parts id = s at spec
  obtain ⟨rfl, rfl⟩ := spec.of_remove? hleft
  rw [spec.parts_eq, names_append, List.append_assoc, follow?_append]
  refine Option.bind_eq_none_iff.mpr fun x hx => ?_
  -- the way to the table leads there as before, if it still leads anywhere
  obtain rfl := Option.some.inj (spec.leads.symm.trans (follow?_of_erase hs hid hx))
  rw [names, List.map_singleton, List.singleton_append, follow?_cons, step?,
    find?_erase_self hs, Option.bind_none]

/-! ## Other keys -/

/-- A way from a table that comes to a slot only over the parts of the slot. -/
def Straight (ts : Tables) (s : Slot) (id : Nat) (way : List Step) : Prop :=
  ∀ above, above ++ [.name s.name] <+: way →
    ts.follow? above (.table id) = some (.table s.table) → above = names s.above

instance (x : Option Item) (id : Nat) : Decidable (x = some (.table id)) :=
  match x with
  | some (.table k) => decidable_of_iff (k = id) (by simp)
  | none | some .null | some (.bool _) | some (.int _) | some (.double _) | some (.text _)
  | some (.list _) => isFalse (by simp)

instance (ts : Tables) (s : Slot) (id : Nat) (way : List Step) : Decidable (ts.Straight s id way) :=
  decidable_of_iff
    (∀ above ∈ way.inits, above ++ [.name s.name] <+: way →
      ts.follow? above (.table id) = some (.table s.table) → above = names s.above)
    ⟨fun h above hp => h above ((List.mem_inits _ _).mpr ((List.prefix_append ..).trans hp)) hp,
      fun h above _ => h above⟩

/-- The parts of a slot lead to its table also after a change in it, if they do not come to the slot
themselves. -/
theorem SlotSpec.leads_of_changedAt {s : Slot} (hs : ts.Sound) (hid : id < ts.length)
    (spec : SlotSpec ts parts id s rest) (hchanged : ChangedAt s.table s.name ts ts')
    (hway : names s.above <+: way) (h : Straight ts s id way) :
    ts'.follow? (names s.above) (.table id) = some (.table s.table) := by
  rw [follow?_of_changedAt (x := .table id) hs hchanged hid fun above hp hread => ?_, spec.leads]
  have habove := h above (hp.trans hway) hread
  have hlength := hp.length_le
  rw [habove, List.length_append] at hlength
  exact absurd hlength (Nat.not_succ_le_self _)

/-- After a change in the slot of a key, the ways along other keys lead to what they led to. Where
such a way goes with the key to the slot and the key further on, it must lead nowhere beyond. -/
theorem follow?_of_apart {s : Slot} (hs : ts.Sound) (hid : id < ts.length)
    (spec : SlotSpec ts parts id s rest) (hchanged : ChangedAt s.table s.name ts ts')
    (hbeyond : ∀ w way, Apart rest w →
      ts'.follow? (names (s.name :: w) ++ way) (.table s.table) = none)
    (hb : Apart parts b) (way : List Step) (hway : Straight ts s id (names b ++ way)) :
    ts'.follow? (names b ++ way) (.table id) = ts.follow? (names b ++ way) (.table id) := by
  by_cases hp : names (s.above ++ [s.name]) <+: names b ++ way
  · rw [spec.parts_eq] at hb
    obtain ⟨w, rfl, hw⟩ := hb.exists_of_prefix hp
    have hleads := spec.leads_of_changedAt hs hid hchanged
      ((names_prefix_iff.mpr (List.prefix_append ..)).trans (List.prefix_append ..)) hway
    rw [names_append, List.append_assoc, follow?_append, follow?_append, hleads, spec.leads,
      Option.bind_some, Option.bind_some, hbeyond w way hw,
      follow?_of_inner?_eq_none (spec.last hw.ne_nil) hw.symm.ne_nil]
  · refine follow?_of_changedAt hs hchanged hid fun above hprefix hread => hp ?_
    rw [hway above hprefix hread] at hprefix
    rwa [names_append]

end Tables

end TypedMarkup.Settings
