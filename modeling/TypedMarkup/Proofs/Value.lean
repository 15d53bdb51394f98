import TypedMarkup.Proofs.Entries
import TypedMarkup.Value
import Mathlib.Data.List.Perm.Subperm

/-!
# Values with distinct names

`Value.IsProper` says that every table in a value, at any depth, has each of its names once, as a
table that is put together by `Entries.put` does. Such a value equals itself (`same_self`), and two
such tables are equal when each name reads equal values in both (`same_table_of_find?`).
-/

namespace TypedMarkup.Value

mutual

/-- Every table in a value has each of its names once. -/
def IsProper : Value → Prop
  | .null | .bool _ | .int _ | .double _ | .text _ => True
  | .list items => AllProper items
  | .table entries => (Entries.names entries).Nodup ∧ EntriesProper entries

/-- Every table in the items of a list has each of its names once. -/
def AllProper : List Value → Prop
  | [] => True
  | v :: vs => IsProper v ∧ AllProper vs

/-- Every table in the entries of a table has each of its names once. -/
def EntriesProper : List (String × Value) → Prop
  | [] => True
  | (_, v) :: rest => IsProper v ∧ EntriesProper rest

end

variable {name : String} {v : Value} {entries : Entries Value}

theorem allProper_iff {vs : List Value} : AllProper vs ↔ ∀ v ∈ vs, v.IsProper := by
  induction vs with
  | nil => simp [AllProper]
  | cons v vs ih => rw [AllProper, ih, List.forall_mem_cons]

theorem entriesProper_iff : EntriesProper entries ↔ ∀ e ∈ entries, e.2.IsProper := by
  induction entries with
  | nil => simp [EntriesProper]
  | cons e rest ih => rw [EntriesProper, ih, List.forall_mem_cons]

theorem IsProper.nodup (h : (table entries).IsProper) : entries.names.Nodup :=
  h.1

/-- What a name of a proper table reads is proper. -/
theorem IsProper.find? (h : (table entries).IsProper) (hv : Entries.find? name entries = some v) :
    v.IsProper :=
  entriesProper_iff.mp h.2 _ (Entries.mem_of_find? hv)

theorem isProper_table_of_find? (hn : entries.names.Nodup)
    (h : ∀ name v, Entries.find? name entries = some v → v.IsProper) : (table entries).IsProper :=
  ⟨hn, entriesProper_iff.mpr fun e he => h e.1 e.2 (Entries.find?_of_mem hn he)⟩

theorem isProper_put (h : (table entries).IsProper) (hv : v.IsProper) :
    (table (Entries.put name v entries)).IsProper := by
  refine isProper_table_of_find? (Entries.nodup_names_put h.nodup) fun n w hw => ?_
  rw [Entries.find?_put] at hw
  split at hw
  · rwa [← Option.some.inj hw]
  · exact h.find? hw

/-- What a name of a table reads is smaller than the table. -/
theorem sizeOf_lt_of_find? (h : Entries.find? name entries = some v) :
    sizeOf v < sizeOf (table entries) := by
  have hlt := List.sizeOf_lt_of_mem (Entries.mem_of_find? h)
  simp only [table.sizeOf_spec, Prod.mk.sizeOf_spec] at hlt ⊢
  omega

/-- What holds of a value whenever it holds of all that the names of a table read, if the value is
one, holds of every value. -/
theorem induction_on_tables {P : Value → Prop}
    (step : ∀ v, (∀ entries name w, v = table entries → Entries.find? name entries = some w → P w) →
      P v) (v : Value) : P v :=
  step v fun entries name w hv hw =>
    have : sizeOf w < sizeOf v := hv ▸ sizeOf_lt_of_find? hw
    induction_on_tables step w
termination_by sizeOf v

/-! ## Equality -/

theorem sameEntries_iff {xs ys : Entries Value} :
    sameEntries xs ys = true ↔
      ∀ e ∈ xs, ∃ y, Entries.find? e.1 ys = some y ∧ same e.2 y = true := by
  induction xs with
  | nil => simp [sameEntries]
  | cons e xs ih =>
    rw [sameEntries, Bool.and_eq_true, ih, List.forall_mem_cons]
    cases Entries.find? e.1 ys <;> simp

/-- Equal tables read equal values. -/
theorem find?_of_same_table {xs ys : Entries Value} (h : same (table xs) (table ys) = true)
    {x : Value} (hx : Entries.find? name xs = some x) :
    ∃ y, Entries.find? name ys = some y ∧ same x y = true := by
  rw [same, Bool.and_eq_true, sameEntries_iff] at h
  exact h.2 _ (Entries.mem_of_find? hx)

/-- Two tables are equal when they have the same names and read equal values. -/
theorem same_table_of_find? {xs ys : Entries Value} (hx : xs.names.Nodup) (hy : ys.names.Nodup)
    (hnames : ∀ n, n ∈ ys.names → n ∈ xs.names)
    (h : ∀ name x, Entries.find? name xs = some x →
      ∃ y, Entries.find? name ys = some y ∧ same x y = true) :
    same (table xs) (table ys) = true := by
  have hentries : ∀ e ∈ xs, ∃ y, Entries.find? e.1 ys = some y ∧ same e.2 y = true :=
    fun e he => h e.1 e.2 (Entries.find?_of_mem hx he)
  have hsub : xs.names ⊆ ys.names := fun n hn => by
    obtain ⟨e, he, rfl⟩ := List.mem_map.mp hn
    obtain ⟨y, hfind, -⟩ := hentries e he
    exact List.mem_map.mpr ⟨_, Entries.mem_of_find? hfind, rfl⟩
  have hlength : xs.names.length = ys.names.length :=
    Nat.le_antisymm (hx.subperm hsub).length_le (hy.subperm hnames).length_le
  rw [same, Bool.and_eq_true, sameEntries_iff, beq_iff_eq]
  exact ⟨by simpa [Entries.names] using hlength, hentries⟩

mutual

/-- A proper value equals itself. -/
theorem same_self : (v : Value) → v.IsProper → same v v = true
  | .null, _ => by rw [same]
  | .bool b, _ => by simp [same, amount?]
  | .int n, _ => by simp [same, amount?]
  | .double x, _ => by simp [same, amount?]
  | .text s, _ => by simp [same]
  | .list items, h => by rw [same]; exact sameItems_self items h
  | .table entries, h => by
    rw [same, beq_self_eq_true, Bool.true_and, sameEntries_iff]
    exact fun e he => ⟨e.2, Entries.find?_of_mem h.1 he, same_entries_self entries h.2 e he⟩

theorem sameItems_self : (vs : List Value) → AllProper vs → sameItems vs vs = true
  | [], _ => by rw [sameItems]
  | v :: vs, h => by rw [sameItems, same_self v h.1, sameItems_self vs h.2]; rfl

theorem same_entries_self : (entries : List (String × Value)) → EntriesProper entries →
    ∀ e ∈ entries, same e.2 e.2 = true
  | [], _ => fun _ he => absurd he List.not_mem_nil
  | (_, v) :: rest, h =>
    List.forall_mem_cons.mpr ⟨same_self v h.1, same_entries_self rest h.2⟩

end

end TypedMarkup.Value
