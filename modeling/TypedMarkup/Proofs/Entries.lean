import TypedMarkup.Entries
import Mathlib.Data.List.Basic
import Mathlib.Data.List.Induction

/-!
# Reading what was put

How `find?` and `names` see `put`: a name reads the last value put under it, every other name reads
what it read before, and a name keeps the place where it first came. After `erase` the name reads
nothing, and every other name what it read before. `putAll` puts several entries in turn; entries
under distinct names are determined by their names and by what each name reads (`ext_of_names`), so
that putting them onto the first of them gives them back (`putAll_of_names_prefix`).

`ofList` puts any pairs, which may repeat a name: the names are those of the pairs, each where it
first came (`names_ofList`), and a name reads its last value (`find?_ofList`).
-/

namespace TypedMarkup.Entries

variable {α : Type} {name : String} {value : α} {entries : Entries α}

theorem find?_put (name n : String) (value : α) (entries : Entries α) :
    find? n (put name value entries) = if n = name then some value else find? n entries := by
  induction entries with
  | nil => simp only [put, find?, eq_comm]
  | cons e rest ih =>
    rw [put]
    split
    · rename_i h
      rw [find?, find?, h]
      split
      · rw [if_pos (Eq.symm ‹_›)]
      · rw [if_neg (Ne.symm ‹_›)]
    · rename_i h
      rw [find?, find?, ih]
      split
      · rename_i hn; rw [if_neg fun e => h (hn.trans e)]
      · rfl

theorem mem_of_find? {v : α} (h : find? name entries = some v) : (name, v) ∈ entries := by
  induction entries with
  | nil => simp [find?] at h
  | cons e rest ih =>
    rw [find?] at h
    split at h
    · rename_i hn
      rw [← Option.some.inj h, ← hn]
      exact List.mem_cons_self
    · exact List.mem_cons_of_mem _ (ih h)

theorem find?_of_mem {v : α} (hn : entries.names.Nodup) (h : (name, v) ∈ entries) :
    find? name entries = some v := by
  induction entries with
  | nil => simp at h
  | cons e rest ih =>
    obtain ⟨he, hrest⟩ := List.nodup_cons.mp hn
    rcases List.mem_cons.mp h with rfl | h
    · simp [find?]
    · have hne : e.1 ≠ name := fun e' => he (e' ▸ List.mem_map_of_mem h)
      rw [find?, if_neg hne, ih hrest h]

theorem find?_map {β : Type} (f : α → β) (n : String) (entries : Entries α) :
    find? n (entries.map fun e => (e.1, f e.2)) = (find? n entries).map f := by
  induction entries with
  | nil => rfl
  | cons e rest ih =>
    rw [List.map_cons, find?, find?, ih]
    split <;> rfl

@[simp] theorem names_nil : names ([] : Entries α) = [] := rfl

@[simp] theorem names_cons (e : String × α) (rest : Entries α) :
    names (e :: rest) = e.1 :: names rest := rfl

theorem names_put (name : String) (value : α) (entries : Entries α) :
    (put name value entries).names =
      if name ∈ entries.names then entries.names else entries.names ++ [name] := by
  induction entries with
  | nil => rfl
  | cons e rest ih =>
    rw [put]
    by_cases h : e.1 = name
    · rw [if_pos h, names_cons, names_cons, if_pos (by simp [h])]
    · rw [if_neg h, names_cons, names_cons, ih]
      simp only [List.mem_cons, Ne.symm h, false_or]
      split <;> rfl

/-- A new name comes last. -/
theorem put_of_not_mem (h : name ∉ entries.names) :
    put name value entries = entries ++ [(name, value)] := by
  induction entries with
  | nil => rfl
  | cons e rest ih =>
    rw [names_cons, List.mem_cons, not_or] at h
    rw [put, if_neg (Ne.symm h.1), ih h.2, List.cons_append]

theorem nodup_names_put (h : entries.names.Nodup) : (put name value entries).names.Nodup := by
  rw [names_put]
  split
  · exact h
  · rename_i hn
    refine List.nodup_append.mpr ⟨h, List.pairwise_singleton _ name, fun a ha b hb e => hn ?_⟩
    rwa [← List.mem_singleton.mp hb, ← e]

theorem names_prefix_put (name : String) (value : α) (entries : Entries α) :
    entries.names <+: (put name value entries).names := by
  rw [names_put]
  split
  · exact List.prefix_rfl
  · exact List.prefix_append ..

/-- Putting what is there changes nothing. -/
theorem put_eq_self (h : find? name entries = some value) : put name value entries = entries := by
  induction entries with
  | nil => exact absurd h (by simp [find?])
  | cons e rest ih =>
    rw [find?] at h
    rw [put]
    split at h
    · rw [if_pos ‹_›, ← Option.some.inj h]
    · rw [if_neg ‹_›, ih h]

/-- A name that is there takes the new value in its place. -/
theorem put_of_mem (hn : entries.names.Nodup) (h : name ∈ entries.names) :
    put name value entries =
      entries.map fun e => (e.1, if e.1 = name then value else e.2) := by
  induction entries with
  | nil => exact absurd h List.not_mem_nil
  | cons e rest ih =>
    obtain ⟨he, hrest⟩ := List.nodup_cons.mp hn
    rw [put, List.map_cons]
    by_cases hname : e.1 = name
    · have hother : ∀ d ∈ rest, (d.1, if d.1 = name then value else d.2) = d := by
        intro d hd
        have hne : d.1 ≠ name := fun hd' => he (hname.trans hd'.symm ▸ List.mem_map_of_mem hd)
        rw [if_neg hne]
      rw [if_pos hname, if_pos hname, List.map_congr_left hother, List.map_id']
    · have hmem : name ∈ names rest := (List.mem_cons.mp h).resolve_left (Ne.symm hname)
      rw [if_neg hname, if_neg hname, ih hrest hmem]

/-- An entry after a `put` is the new one, or an old one under another name. -/
theorem mem_put (hn : entries.names.Nodup) {n : String} {v : α} :
    (n, v) ∈ put name value entries ↔
      n = name ∧ v = value ∨ n ≠ name ∧ (n, v) ∈ entries := by
  have mem_iff {es : Entries α} (h : es.names.Nodup) : (n, v) ∈ es ↔ find? n es = some v :=
    ⟨find?_of_mem h, mem_of_find?⟩
  rw [mem_iff (nodup_names_put hn), mem_iff hn, find?_put]
  by_cases h : n = name
  · simp [h, eq_comm]
  · simp [h]

theorem find?_eq_none_iff : find? name entries = none ↔ name ∉ entries.names := by
  induction entries with
  | nil => simp [find?]
  | cons e rest ih =>
    rw [find?, names_cons, List.mem_cons, not_or]
    split
    · rename_i h; simp [h]
    · rename_i h; rw [ih]; exact ⟨fun hr => ⟨Ne.symm h, hr⟩, And.right⟩

theorem isSome_find?_iff : (find? name entries).isSome = true ↔ name ∈ entries.names := by
  rw [← Decidable.not_iff_not, ← find?_eq_none_iff, Bool.not_eq_true, Option.isSome_eq_false_iff,
    Option.isNone_iff_eq_none]

/-- A test that the new value does not pass sees a `put` as taking the name out. -/
theorem filter_put (hn : entries.names.Nodup) {test : α → Bool} (h : test value = false) :
    (put name value entries).filter (fun e => test e.2) =
      entries.filter fun e => test e.2 && e.1 != name := by
  induction entries with
  | nil => simp [put, h]
  | cons e rest ih =>
    obtain ⟨he, hrest⟩ := List.nodup_cons.mp hn
    rw [put]
    by_cases hname : e.1 = name
    · have hother : ∀ d ∈ rest, (test d.2 && d.1 != name) = test d.2 := by
        intro d hd
        have hne : d.1 ≠ name := fun hd' => he (hname.trans hd'.symm ▸ List.mem_map_of_mem hd)
        simp [hne]
      rw [if_pos hname, List.filter_cons_of_neg (by simp [h]),
        List.filter_cons_of_neg (by simp [hname]), List.filter_congr hother]
    · have htest : (test e.2 && e.1 != name) = test e.2 := by simp [hname]
      rw [if_neg hname, List.filter_cons, List.filter_cons, ih hrest, htest]

/-! ## Taking out -/

theorem erase_sublist (name : String) (entries : Entries α) :
    (erase name entries).Sublist entries := by
  induction entries with
  | nil => exact .slnil
  | cons e rest ih =>
    rw [erase]
    split
    · exact List.sublist_cons_self e rest
    · exact ih.cons_cons e

theorem nodup_names_erase (h : entries.names.Nodup) (name : String) :
    (erase name entries).names.Nodup :=
  h.sublist ((erase_sublist name entries).map _)

theorem find?_erase_of_ne {n : String} (h : n ≠ name) :
    find? n (erase name entries) = find? n entries := by
  induction entries with
  | nil => rfl
  | cons e rest ih =>
    rw [erase, find?]
    split
    · rename_i he
      rw [if_neg fun hn => h (hn.symm.trans he)]
    · rw [find?, ih]

theorem find?_erase_self (h : entries.names.Nodup) : find? name (erase name entries) = none := by
  induction entries with
  | nil => rfl
  | cons e rest ih =>
    obtain ⟨he, hrest⟩ := List.nodup_cons.mp h
    rw [erase]
    split
    · rename_i hn
      exact find?_eq_none_iff.mpr (hn ▸ he)
    · rename_i hn
      rw [find?, if_neg hn, ih hrest]

/-! ## Several entries -/

/-- Entries under distinct names are determined by their names and by what each name reads. -/
theorem ext_of_names {other : Entries α} (hnodup : entries.names.Nodup)
    (hnames : other.names = entries.names) (hfind : ∀ n, find? n other = find? n entries) :
    other = entries := by
  induction entries generalizing other with
  | nil => exact List.map_eq_nil_iff.mp hnames
  | cons e rest ih =>
    cases other with
    | nil => exact absurd hnames (by simp)
    | cons d others =>
      obtain ⟨hfirst, hrest⟩ := List.cons.inj hnames
      obtain ⟨he, hnodup⟩ := List.nodup_cons.mp hnodup
      have hvalue : d.2 = e.2 := by
        have h := hfind e.1
        rw [find?, find?, if_pos hfirst, if_pos rfl] at h
        exact Option.some.inj h
      rw [Prod.ext hfirst hvalue, ih hnodup hrest fun n => ?_]
      by_cases hn : e.1 = n
      · -- the first name comes only once, so the rest has nothing under it
        have hd : d.1 ∉ names others := by rw [names, hrest, hfirst]; exact he
        rw [← hn, find?_eq_none_iff.mpr he, ← hfirst, find?_eq_none_iff.mpr hd]
      · have h := hfind n
        rwa [find?, find?, hfirst, if_neg hn, if_neg hn] at h

/-- Puts each entry of a list in turn. -/
def putAll (entries : Entries α) (pairs : List (String × α)) : Entries α :=
  pairs.foldl (fun es p => es.put p.1 p.2) entries

theorem nodup_names_putAll (h : entries.names.Nodup) (pairs : List (String × α)) :
    (entries.putAll pairs).names.Nodup := by
  induction pairs generalizing entries with
  | nil => exact h
  | cons p pairs ih => exact ih (nodup_names_put h)

theorem names_prefix_putAll (entries : Entries α) (pairs : List (String × α)) :
    entries.names <+: (entries.putAll pairs).names := by
  induction pairs generalizing entries with
  | nil => exact List.prefix_rfl
  | cons p pairs ih => exact (names_prefix_put p.1 p.2 entries).trans (ih _)


/-- Of several entries under distinct names each name reads its own, and other names what they read
before. -/
theorem find?_putAll (entries : Entries α) {pairs : Entries α} (h : pairs.names.Nodup)
    (n : String) : find? n (entries.putAll pairs) = (find? n pairs).or (find? n entries) := by
  induction pairs generalizing entries with
  | nil => rfl
  | cons p pairs ih =>
    obtain ⟨hp, h⟩ := List.nodup_cons.mp h
    rw [putAll, List.foldl_cons, ← putAll, ih _ h, find?_put, find?]
    by_cases hn : n = p.1
    · rw [if_pos hn, if_pos hn.symm, hn, find?_eq_none_iff.mpr hp]
      rfl
    · rw [if_neg hn, if_neg (Ne.symm hn)]

theorem names_putAll (entries : Entries α) {pairs : Entries α} (h : pairs.names.Nodup) :
    (entries.putAll pairs).names =
      entries.names ++ pairs.names.filter (fun n => n ∉ entries.names) := by
  induction pairs generalizing entries with
  | nil => exact (List.append_nil _).symm
  | cons p pairs ih =>
    obtain ⟨hp, h⟩ := List.nodup_cons.mp h
    rw [putAll, List.foldl_cons, ← putAll, ih _ h, names_put, names_cons]
    by_cases hm : p.1 ∈ entries.names
    · rw [if_pos hm, List.filter_cons_of_neg (by simpa using hm)]
    · rw [if_neg hm, List.filter_cons_of_pos (by simpa using hm), List.append_assoc]
      refine congrArg _ (congrArg _ (List.filter_congr fun n hn => ?_))
      have hne : n ≠ p.1 := fun e => hp (e ▸ hn)
      simp [hne]

/-- Entries put onto others under distinct names: those that are there keep their places and take
the new values, and the new ones follow in order. -/
theorem putAll_eq (h : entries.names.Nodup) {pairs : Entries α} (hp : pairs.names.Nodup) :
    entries.putAll pairs =
      entries.map (fun e => (e.1, (find? e.1 pairs).getD e.2)) ++
        pairs.filter fun p => p.1 ∉ entries.names := by
  induction pairs generalizing entries with
  | nil => simp [putAll, find?]
  | cons p pairs ih =>
    obtain ⟨hnot, hpairs⟩ := List.nodup_cons.mp hp
    rw [putAll, List.foldl_cons, ← putAll, ih (nodup_names_put h) hpairs]
    by_cases hm : p.1 ∈ entries.names
    · have hvalue (e : String × α) : (find? e.1 pairs).getD (if e.1 = p.1 then p.2 else e.2) =
          (find? e.1 (p :: pairs)).getD e.2 := by
        rw [find?]
        by_cases he : e.1 = p.1
        · rw [if_pos he, if_pos he.symm, he, find?_eq_none_iff.mpr hnot]
          rfl
        · rw [if_neg he, if_neg (Ne.symm he)]
      rw [names_put, if_pos hm, List.filter_cons_of_neg (by simpa using hm), put_of_mem h hm,
        List.map_map]
      exact congrArg (· ++ _) (List.map_congr_left fun e _ => congrArg (e.1, ·) (hvalue e))
    · have hold : ∀ e ∈ entries, (e.1, (find? e.1 pairs).getD e.2) =
          (e.1, (find? e.1 (p :: pairs)).getD e.2) := by
        intro e he
        have hne : p.1 ≠ e.1 := fun hpe => hm (hpe ▸ List.mem_map_of_mem he)
        rw [find?, if_neg hne]
      have hnew : pairs.filter (fun q => q.1 ∉ entries.names ++ [p.1]) =
          pairs.filter fun q => q.1 ∉ entries.names := List.filter_congr fun q hq => by
        have hne : q.1 ≠ p.1 := fun e => hnot (e ▸ List.mem_map_of_mem hq)
        simp [hne]
      rw [names_put, if_neg hm, hnew, put_of_not_mem hm, List.map_append, List.map_congr_left hold,
        List.filter_cons_of_pos (by simpa using hm), List.append_assoc, List.map_singleton,
        find?_eq_none_iff.mpr hnot]
      rfl

/-- Putting entries onto some whose names are the first of theirs gives them back. -/
theorem putAll_of_names_prefix {pairs : Entries α} (h : pairs.names.Nodup)
    (hp : entries.names <+: pairs.names) : entries.putAll pairs = pairs := by
  obtain ⟨rest, hrest⟩ := hp
  refine ext_of_names h ?_ fun n => ?_
  · have hnew : pairs.names.filter (fun n => n ∉ entries.names) = rest := by
      rw [← hrest] at h ⊢
      have hdisjoint := (List.nodup_append.mp h).2.2
      rw [List.filter_append, List.filter_eq_nil_iff.mpr fun n hn => by simpa using hn,
        List.filter_eq_self.mpr fun n hn => ?_, List.nil_append]
      simpa using fun hm => hdisjoint n hm n hn rfl
    rw [names_putAll entries h, hnew, hrest]
  · rw [find?_putAll entries h]
    cases hf : find? n pairs with
    | some v => rfl
    | none =>
      rw [find?_eq_none_iff, ← hrest, List.mem_append, not_or] at hf
      rw [find?_eq_none_iff.mpr hf.1]
      rfl

/-- Entries under distinct names are what each of their names reads. -/
theorem filterMap_names (h : entries.names.Nodup) :
    (entries.names.filterMap fun n => (find? n entries).map fun v => (n, v)) = entries := by
  induction entries with
  | nil => rfl
  | cons e rest ih =>
    obtain ⟨he, hrest⟩ := List.nodup_cons.mp h
    have hsame : ∀ n ∈ names rest, (find? n (e :: rest)).map (fun v => (n, v)) =
        (find? n rest).map fun v => (n, v) := by
      intro n hn
      have hne : e.1 ≠ n := fun hen => he (hen ▸ hn)
      rw [find?, if_neg hne]
    rw [names_cons, List.filterMap_cons, find?, if_pos rfl, Option.map_some,
      List.filterMap_congr hsame, ih hrest]

/-! ## Entries of pairs -/

theorem ofList_concat (pairs : List (String × α)) (p : String × α) :
    ofList (pairs ++ [p]) = (ofList pairs).put p.1 p.2 := by
  rw [ofList, List.foldl_concat, ← ofList]

theorem nodup_names_ofList (pairs : List (String × α)) : (ofList pairs).names.Nodup := by
  have h : (names ([] : Entries α)).Nodup := List.nodup_nil
  exact nodup_names_putAll h pairs

/-- The names are those of the pairs, each in the place where it first came. -/
theorem names_ofList (pairs : List (String × α)) :
    (ofList pairs).names = (pairs.map Prod.fst).eraseDups := by
  induction pairs using List.reverseRecOn with
  | nil => rfl
  | append_singleton pairs p ih =>
    rw [ofList_concat, names_put, ih, List.map_append, List.eraseDups_append, List.map_singleton]
    simp only [List.mem_eraseDups]
    split
    · rename_i h
      have hnone : [p.1].removeAll (pairs.map Prod.fst) = [] := by
        simpa [List.removeAll] using h
      rw [hnone]
      simp
    · rename_i h
      have hone : [p.1].removeAll (pairs.map Prod.fst) = [p.1] := by
        simpa [List.removeAll] using h
      rw [hone]
      rfl

/-- A name reads the last value of the pairs under it. -/
theorem find?_ofList (n : String) (pairs : List (String × α)) :
    find? n (ofList pairs) = (pairs.filter (·.1 == n)).getLast?.map Prod.snd := by
  induction pairs using List.reverseRecOn with
  | nil => rfl
  | append_singleton pairs p ih =>
    rw [ofList_concat, find?_put, List.filter_append, List.getLast?_append, ih]
    by_cases h : n = p.1
    · rw [if_pos h, List.filter_cons_of_pos (by simp [h])]
      rfl
    · rw [if_neg h, List.filter_cons_of_neg (by simpa using Ne.symm h)]
      rfl

theorem mem_of_mem_ofList {p : String × α} {pairs : List (String × α)} (h : p ∈ ofList pairs) :
    p ∈ pairs := by
  have hfind := find?_of_mem (nodup_names_ofList pairs) h
  rw [find?_ofList, Option.map_eq_some_iff] at hfind
  obtain ⟨q, hq, hvalue⟩ := hfind
  obtain ⟨hmem, hname⟩ := List.mem_filter.mp (List.mem_of_getLast? hq)
  rwa [← Prod.ext (beq_iff_eq.mp hname) hvalue]

end TypedMarkup.Entries
