import TypedMarkup.Proofs.Value
import TypedMarkup.Settings

/-!
# Values laid over others

Settings as values: what a key reads in them (`getAt`), and what comes of laying one table over
another (`merge`). Of a merged table a key reads what the upper table has under it, with a table
completed by the lower one; where the upper table has nothing, what the lower one has, unless a
value of the upper table that is no table is in the way (`getAt_merge`). So laying a table over
another gives that table back exactly when the other has nothing that is missing from it
(`same_merge_iff`).

All this is about tables that have each of their names once, which merging keeps so
(`isProper_merge`).
-/

namespace TypedMarkup.Settings

open Value (IsProper same)

variable {part : String} {v : Value} {settings target source : Entries Value}

/-- The value under the parts of a key. -/
def getAt : List String → Entries Value → Option Value
  | [], _ => none
  | [part], settings => Entries.find? part settings
  | part :: rest, settings =>
    match Entries.find? part settings with
    | some (.table inner) => getAt rest inner
    | _ => none

mutual

/-- What stands in the place of `old` after a value is laid over it: a table goes into a table,
and anything else replaces what was there. -/
def overlay (old : Option Value) : Value → Value
  | .table entries =>
    match old with
    | some (.table inner) => .table (mergeEntries inner entries)
    | _ => .table entries
  | .null => .null
  | .bool b => .bool b
  | .int n => .int n
  | .double x => .double x
  | .text s => .text s
  | .list items => .list items

/-- The target with each entry laid over the entry of the same name. -/
def mergeEntries (target : Entries Value) : List (String × Value) → Entries Value
  | [] => target
  | (name, value) :: rest =>
    mergeEntries (Entries.put name (overlay (Entries.find? name target) value) target) rest

end

/-- Lays one table over another. -/
def merge (target source : Entries Value) : Entries Value :=
  mergeEntries target source

/-! ## Tables under a name -/

/-- The table under a name, if there is one. -/
def inner? (name : String) (settings : Entries Value) : Option (Entries Value) :=
  match Entries.find? name settings with
  | some (.table inner) => some inner
  | _ => none

theorem inner?_eq_some {name : String} {inner : Entries Value} :
    inner? name settings = some inner ↔ Entries.find? name settings = some (.table inner) := by
  unfold inner?
  split <;> simp_all

theorem getAt_cons (part next : String) (rest : List String) (settings : Entries Value) :
    getAt (part :: next :: rest) settings = (inner? part settings).bind (getAt (next :: rest)) := by
  simp only [getAt, inner?]
  split <;> simp [*]

/-! ## Distinct names -/

theorem isProper_empty : (Value.table []).IsProper :=
  ⟨List.nodup_nil, trivial⟩

theorem isProper_defaults : (Value.table defaults).IsProper := by
  simp [defaults, Value.IsProper, Value.EntriesProper]

mutual

theorem isProper_overlay (old : Option Value) (hold : ∀ v ∈ old, v.IsProper) :
    (v : Value) → v.IsProper → (overlay old v).IsProper
  | .table entries, h => by
    cases old with
    | none => exact h
    | some w =>
      cases w with
      | table inner => exact isProper_mergeEntries inner (hold _ rfl) entries h.2
      | _ => exact h
  | .null, h | .bool _, h | .int _, h | .double _, h | .text _, h | .list _, h => h

theorem isProper_mergeEntries (target : Entries Value) (ht : (Value.table target).IsProper) :
    (source : List (String × Value)) → Value.EntriesProper source →
      (Value.table (mergeEntries target source)).IsProper
  | [], _ => ht
  | (name, value) :: rest, h => by
    rw [mergeEntries]
    refine isProper_mergeEntries _ (Value.isProper_put ht ?_) rest h.2
    exact isProper_overlay _ (fun v hv => ht.find? hv) value h.1

end

theorem isProper_merge (ht : (Value.table target).IsProper) (hs : (Value.table source).IsProper) :
    (Value.table (merge target source)).IsProper :=
  isProper_mergeEntries target ht source hs.2

/-! ## What a key reads -/

/-- Whether a value that is no table is in the way of a key. -/
def blockedAt : List String → Entries Value → Bool
  | [], _ => false
  | [_], _ => false
  | part :: next :: rest, settings =>
    match inner? part settings with
    | some inner => blockedAt (next :: rest) inner
    | none => Entries.has part settings

/-- Anything but a table replaces what was there. -/
theorem overlay_of_not_table (old : Option Value) (h : ∀ entries, v ≠ .table entries) :
    overlay old v = v := by
  cases v with
  | table entries => exact absurd rfl (h entries)
  | _ => rfl

/-- A value where there was none stays as it is. -/
theorem overlay_none (v : Value) : overlay none v = v := by
  cases v <;> rfl

/-- A table where there was none stays as it is. -/
theorem overlay_of_inner?_eq_none (h : inner? part settings = none) (v : Value) :
    overlay (Entries.find? part settings) v = v := by
  unfold inner? at h
  cases v with
  | table entries =>
    unfold overlay
    split <;> simp_all
  | _ => rfl

theorem find?_merge (target : Entries Value) {source : Entries Value}
    (hs : source.names.Nodup) (name : String) :
    Entries.find? name (merge target source) =
      match Entries.find? name source with
      | some v => some (overlay (Entries.find? name target) v)
      | none => Entries.find? name target := by
  unfold merge
  induction source generalizing target with
  | nil => rfl
  | cons e rest ih =>
    obtain ⟨he, hs⟩ := List.nodup_cons.mp hs
    rw [mergeEntries, ih _ hs, Entries.find?_put, Entries.find?]
    by_cases hn : name = e.1
    · rw [if_pos hn, if_pos hn.symm, hn, Entries.find?_eq_none_iff.mpr he]
    · rw [if_neg hn, if_neg (Ne.symm hn)]

/-- What a key reads after a table has been laid over another, by induction on its parts. -/
theorem getAt_merge : (parts : List String) → (target source : Entries Value) →
    (Value.table source).IsProper →
      getAt parts (merge target source) =
        match getAt parts source with
        | some v => some (overlay (getAt parts target) v)
        | none => if blockedAt parts source then none else getAt parts target
  | [], _, _, _ => rfl
  | [part], target, source, hs => find?_merge target hs.nodup part
  | part :: next :: rest, target, source, hs => by
    rw [getAt_cons, getAt_cons, getAt_cons, blockedAt]
    have hfind := find?_merge target hs.nodup part
    cases hv : Entries.find? part source with
    | none => simp [inner?, hv, hfind, Entries.has]
    | some v =>
      simp only [hv] at hfind
      cases v with
      | table inner =>
        rw [inner?_eq_some.mpr hv, Option.bind_some]
        cases ht : inner? part target with
        | none =>
          rw [overlay_of_inner?_eq_none ht] at hfind
          rw [inner?_eq_some.mpr hfind, Option.bind_some, Option.bind_none]
          cases getAt (next :: rest) inner <;> simp [overlay_none]
        | some outer =>
          rw [inner?_eq_some.mp ht] at hfind
          rw [inner?_eq_some.mpr hfind, Option.bind_some, Option.bind_some]
          exact getAt_merge (next :: rest) outer inner (hs.find? hv)
      | _ => simp [inner?, hv, hfind, Entries.has, overlay]

/-! ## Getting a table back -/

/-- Nothing of one table is missing from another: what a key reads there it reads here too, unless a
value that is no table is in the way. -/
def Complete (target source : Entries Value) : Prop :=
  ∀ parts, (getAt parts target).isSome = true →
    (getAt parts source).isSome = true ∨ blockedAt parts source = true

/-- Nothing of an inner table is missing either. -/
theorem Complete.inner {outer inner : Entries Value} (h : Complete target source)
    (ht : inner? part target = some outer) (hs : inner? part source = some inner) :
    Complete outer inner := by
  intro parts hparts
  match parts with
  | [] => exact absurd hparts (by simp [getAt])
  | next :: rest =>
    have hread := h (part :: next :: rest) (by rw [getAt_cons, ht]; exact hparts)
    rwa [getAt_cons, blockedAt, hs] at hread

/-- When nothing is missing from a table, laying it over the other gives it back. -/
theorem same_merge_of_complete (target source : Entries Value)
    (ht : (Value.table target).IsProper) (hs : (Value.table source).IsProper)
    (h : Complete target source) :
    same (.table (merge target source)) (.table source) = true := by
  have hmerge := isProper_merge ht hs
  have hfind := find?_merge target hs.nodup
  refine Value.same_table_of_find? hmerge.nodup hs.nodup (fun n hn => ?_) fun name x hx => ?_
  · rw [← Entries.isSome_find?_iff] at hn ⊢
    obtain ⟨v, hv⟩ := Option.isSome_iff_exists.mp hn
    rw [hfind, hv]
    rfl
  · rw [hfind] at hx
    cases hv : Entries.find? name source with
    | none =>
      simp only [hv] at hx
      -- a single part is never blocked, so the name is missing
      have hread := h [name] (by rw [getAt, hx]; rfl)
      simp [getAt, blockedAt, hv] at hread
    | some v =>
      simp only [hv] at hx
      refine ⟨v, rfl, ?_⟩
      rw [← Option.some.inj hx]
      cases hinner : inner? name target with
      | none =>
        rw [overlay_of_inner?_eq_none hinner]
        exact Value.same_self v (hs.find? hv)
      | some outer =>
        rw [inner?_eq_some.mp hinner]
        cases v with
        | table inner =>
          have hlt : sizeOf inner < sizeOf source := by
            have := Value.sizeOf_lt_of_find? hv
            simp only [Value.table.sizeOf_spec] at this
            omega
          exact same_merge_of_complete outer inner (ht.find? (inner?_eq_some.mp hinner))
            (hs.find? hv) (h.inner hinner (inner?_eq_some.mpr hv))
        | _ => exact Value.same_self _ (hs.find? hv)
termination_by sizeOf source

/-- Equal tables have something under the same keys. -/
theorem isSome_getAt_of_same : (parts : List String) → (xs ys : Entries Value) →
    same (.table xs) (.table ys) = true → (getAt parts xs).isSome = true →
      (getAt parts ys).isSome = true
  | [], _, _, _, h => absurd h (by simp [getAt])
  | [part], xs, ys, hsame, h => by
    obtain ⟨x, hx⟩ := Option.isSome_iff_exists.mp h
    obtain ⟨y, hy, -⟩ := Value.find?_of_same_table hsame hx
    exact Option.isSome_iff_exists.mpr ⟨y, hy⟩
  | part :: next :: rest, xs, ys, hsame, h => by
    rw [getAt_cons] at h ⊢
    obtain ⟨v, hv⟩ := Option.isSome_iff_exists.mp h
    obtain ⟨inner, hinner, hread⟩ := Option.bind_eq_some_iff.mp hv
    obtain ⟨y, hy, hxy⟩ := Value.find?_of_same_table hsame (inner?_eq_some.mp hinner)
    cases y with
    | table other =>
      rw [inner?_eq_some.mpr hy]
      exact isSome_getAt_of_same (next :: rest) inner other hxy (by rw [hread]; rfl)
    | _ => simp [same, Value.amount?] at hxy

/-- Laying a table over another gives it back exactly when nothing of the other is missing from
it. -/
theorem same_merge_iff (ht : (Value.table target).IsProper) (hs : (Value.table source).IsProper) :
    same (.table (merge target source)) (.table source) = true ↔ Complete target source := by
  refine ⟨fun hsame parts hparts => ?_, same_merge_of_complete target source ht hs⟩
  by_cases hb : blockedAt parts source = true
  · exact .inr hb
  · -- the key reads something after the merge, and so in the table that is equal to it
    refine .inl (isSome_getAt_of_same parts _ _ hsame ?_)
    rw [getAt_merge parts target source hs]
    cases getAt parts source with
    | some v => rfl
    | none => simpa [hb] using hparts

end TypedMarkup.Settings
