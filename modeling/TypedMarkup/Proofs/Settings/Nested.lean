import Mathlib.Data.List.Perm.Subperm
import TypedMarkup.Proofs.Settings.Merge
import TypedMarkup.Proofs.Settings.Tables

/-!
# Nested tables

Tables that stand in one another as a value says, none of them in two places (`Nests`): what a new
value is held as, and what settings are after loading. `Holds` says which tables an item has in it,
in the order in which they stand there, and `Becomes` that only those tables change, or new ones.

* `Holds.itemValue?`: such an item has the value that it was made for;
* `holds_hold`: new values are held in new tables;
* `holds_merge`: laying a new table over such a one is laying its value over the other value.
-/

namespace TypedMarkup.Settings.Tables

variable {ts ts' mid : Tables} {v : Value} {x : Item} {vs : List Value} {xs : List Item}
  {es : Entries Value} {entries : Entries Item} {id : Nat} {ids ids' : List Nat} {name : String}

/-! ## Values in tables -/

mutual

/-- An item is a value, with these tables in it. -/
inductive Holds (ts : Tables) : Value → Item → List Nat → Prop where
  | null : Holds ts .null .null []
  | bool (b : Bool) : Holds ts (.bool b) (.bool b) []
  | int (n : Int) : Holds ts (.int n) (.int n) []
  | double (x : Double) : Holds ts (.double x) (.double x) []
  | text (s : String) : Holds ts (.text s) (.text s) []
  | list {vs : List Value} {xs : List Item} {ids : List Nat} (items : HoldsItems ts vs xs ids) :
      Holds ts (.list vs) (.list xs) ids
  | table {es : Entries Value} {entries : Entries Item} {id : Nat} {ids : List Nat}
      (there : ts[id]? = some entries) (inside : HoldsEntries ts es entries ids) :
      Holds ts (.table es) (.table id) (id :: ids)

/-- The same of the items of a list. -/
inductive HoldsItems (ts : Tables) : List Value → List Item → List Nat → Prop where
  | nil : HoldsItems ts [] [] []
  | cons {v : Value} {x : Item} {vs : List Value} {xs : List Item} {a b : List Nat}
      (first : Holds ts v x a) (rest : HoldsItems ts vs xs b) :
      HoldsItems ts (v :: vs) (x :: xs) (a ++ b)

/-- The same of entries under the same names. -/
inductive HoldsEntries (ts : Tables) : Entries Value → Entries Item → List Nat → Prop where
  | nil : HoldsEntries ts [] [] []
  | cons {name : String} {v : Value} {x : Item} {es : Entries Value} {entries : Entries Item}
      {a b : List Nat} (first : Holds ts v x a) (rest : HoldsEntries ts es entries b) :
      HoldsEntries ts ((name, v) :: es) ((name, x) :: entries) (a ++ b)

end

/-- An item is a value, and no table stands in it in two places. -/
def Nests (ts : Tables) (v : Value) (x : Item) : Prop :=
  ∃ ids : List Nat, ids.Nodup ∧ Holds ts v x ids

mutual

/-- Only the tables in an item count. -/
theorem Holds.congr : {v : Value} → {x : Item} → {ids : List Nat} → Holds ts v x ids →
    (∀ id ∈ ids, ts'[id]? = ts[id]?) → Holds ts' v x ids
  | _, _, _, .null, _ => .null
  | _, _, _, .bool b, _ => .bool b
  | _, _, _, .int n, _ => .int n
  | _, _, _, .double x, _ => .double x
  | _, _, _, .text s, _ => .text s
  | _, _, _, .list items, h => .list (items.congr h)
  | _, _, _, .table there inside, h =>
    .table ((h _ List.mem_cons_self).trans there)
      (inside.congr fun id hid => h id (List.mem_cons_of_mem _ hid))

theorem HoldsItems.congr : {vs : List Value} → {xs : List Item} → {ids : List Nat} →
    HoldsItems ts vs xs ids → (∀ id ∈ ids, ts'[id]? = ts[id]?) → HoldsItems ts' vs xs ids
  | _, _, _, .nil, _ => .nil
  | _, _, _, .cons first rest, h =>
    .cons (first.congr fun id hid => h id (List.mem_append_left _ hid))
      (rest.congr fun id hid => h id (List.mem_append_right _ hid))

theorem HoldsEntries.congr : {es : Entries Value} → {entries : Entries Item} → {ids : List Nat} →
    HoldsEntries ts es entries ids → (∀ id ∈ ids, ts'[id]? = ts[id]?) →
      HoldsEntries ts' es entries ids
  | _, _, _, .nil, _ => .nil
  | _, _, _, .cons first rest, h =>
    .cons (first.congr fun id hid => h id (List.mem_append_left _ hid))
      (rest.congr fun id hid => h id (List.mem_append_right _ hid))

end

theorem lt_of_getElem? (h : ts[id]? = some entries) : id < ts.length :=
  (List.getElem?_eq_some_iff.mp h).1

mutual

theorem Holds.lt_length : {v : Value} → {x : Item} → {ids : List Nat} → Holds ts v x ids →
    ∀ id ∈ ids, id < ts.length
  | _, _, _, .null | _, _, _, .bool _ | _, _, _, .int _ | _, _, _, .double _ | _, _, _, .text _ =>
    fun _ hid => absurd hid List.not_mem_nil
  | _, _, _, .list items => items.lt_length
  | _, _, _, .table there inside =>
    List.forall_mem_cons.mpr ⟨lt_of_getElem? there, inside.lt_length⟩

theorem HoldsItems.lt_length : {vs : List Value} → {xs : List Item} → {ids : List Nat} →
    HoldsItems ts vs xs ids → ∀ id ∈ ids, id < ts.length
  | _, _, _, .nil => fun _ hid => absurd hid List.not_mem_nil
  | _, _, _, .cons first rest => List.forall_mem_append.mpr ⟨first.lt_length, rest.lt_length⟩

theorem HoldsEntries.lt_length : {es : Entries Value} → {entries : Entries Item} →
    {ids : List Nat} → HoldsEntries ts es entries ids → ∀ id ∈ ids, id < ts.length
  | _, _, _, .nil => fun _ hid => absurd hid List.not_mem_nil
  | _, _, _, .cons first rest => List.forall_mem_append.mpr ⟨first.lt_length, rest.lt_length⟩

end

theorem getElem?_put_of_ne {k : Nat} (name : String) (x : Item) (h : k ≠ id) :
    (ts.put id name x)[k]? = ts[k]? := by
  rw [put, List.getElem?_modify]
  simp [h.symm]

theorem getElem?_put_self (name : String) (x : Item) (h : ts[id]? = some entries) :
    (ts.put id name x)[id]? = some (Entries.put name x entries) := by
  rw [put, List.getElem?_modify, h]
  simp

/-! ## Reading the value -/

section Reading

variable {again : Option Value}

mutual

/-- An item has the value that it is, read so deep that each of its tables may stand in the one
before. -/
theorem Holds.itemValue? : {v : Value} → {x : Item} → {ids : List Nat} → Holds ts v x ids →
    ids.Nodup → ∀ depth way, ids.length ≤ depth → (∀ id ∈ ids, id ∉ way) →
      Tables.itemValue? (ts.tableValue? again depth way) x = some v
  | _, _, _, .null, _, _, _, _, _ | _, _, _, .bool _, _, _, _, _, _
  | _, _, _, .int _, _, _, _, _, _ | _, _, _, .double _, _, _, _, _, _
  | _, _, _, .text _, _, _, _, _, _ => rfl
  | _, _, _, .list items, hn, depth, way, hd, hw => by
    rw [Tables.itemValue?, items.itemValues? hn depth way hd hw]
    rfl
  | _, _, _, @Holds.table _ es _ id ids there inside, hn, depth, way, hd, hw => by
    obtain ⟨hid, hn⟩ := List.nodup_cons.mp hn
    obtain ⟨hout, hw⟩ := List.forall_mem_cons.mp hw
    obtain ⟨depth, rfl⟩ : ∃ d, depth = d + 1 := Nat.exists_eq_add_one_of_ne_zero (by
      simp only [List.length_cons] at hd
      omega)
    have hbelow : ∀ k ∈ ids, k ∉ id :: way := fun k hk hmem =>
      (List.mem_cons.mp hmem).elim (fun e => hid (e ▸ hk)) (hw k hk)
    have hread := inside.entryValues? hn depth (id :: way) (Nat.le_of_succ_le_succ hd) hbelow
    rw [Tables.itemValue?, tableValue?, if_neg hout, there]
    simp [hread]

theorem HoldsItems.itemValues? : {vs : List Value} → {xs : List Item} → {ids : List Nat} →
    HoldsItems ts vs xs ids → ids.Nodup → ∀ depth way, ids.length ≤ depth →
      (∀ id ∈ ids, id ∉ way) → Tables.itemValues? (ts.tableValue? again depth way) xs = some vs
  | _, _, _, .nil, _, _, _, _, _ => rfl
  | _, _, _, .cons first rest, hn, depth, way, hd, hw => by
    obtain ⟨ha, hb, -⟩ := List.nodup_append.mp hn
    obtain ⟨hwa, hwb⟩ := List.forall_mem_append.mp hw
    rw [List.length_append] at hd
    rw [Tables.itemValues?, first.itemValue? ha depth way (by omega) hwa,
      rest.itemValues? hb depth way (by omega) hwb]
    rfl

theorem HoldsEntries.entryValues? : {es : Entries Value} → {entries : Entries Item} →
    {ids : List Nat} → HoldsEntries ts es entries ids → ids.Nodup →
      ∀ depth way, ids.length ≤ depth → (∀ id ∈ ids, id ∉ way) →
        Tables.entryValues? (ts.tableValue? again depth way) entries = some es
  | _, _, _, .nil, _, _, _, _, _ => rfl
  | _, _, _, .cons first rest, hn, depth, way, hd, hw => by
    obtain ⟨ha, hb, -⟩ := List.nodup_append.mp hn
    obtain ⟨hwa, hwb⟩ := List.forall_mem_append.mp hw
    rw [List.length_append] at hd
    rw [Tables.entryValues?, first.itemValue? ha depth way (by omega) hwa,
      rest.entryValues? hb depth way (by omega) hwb]
    rfl

end

end Reading

/-- As there are as many tables as that, the value of nested tables is read. -/
theorem value?_of_nests (h : ts.Nests v x) : ts.value? x = some v := by
  obtain ⟨ids, hn, h⟩ := h
  have hsub : ids ⊆ List.range ts.length := fun id hid => List.mem_range.mpr (h.lt_length id hid)
  have hlength := (hn.subperm hsub).length_le
  rw [List.length_range] at hlength
  exact h.itemValue? hn _ _ (Nat.le_succ_of_le hlength) fun _ _ => List.not_mem_nil

/-! ## Changes in some tables -/

/-- The tables of an item change to others: only they do, and only new ones come to them. -/
structure Becomes (ts ts' : Tables) (ids ids' : List Nat) : Prop where
  nodup : ids'.Nodup
  from_old : ∀ id ∈ ids', id ∈ ids ∨ ts.length ≤ id
  others : ∀ id, id < ts.length → id ∉ ids → ts'[id]? = ts[id]?
  length : ts.length ≤ ts'.length

theorem Becomes.refl (ts : Tables) (hn : ids.Nodup) : Becomes ts ts ids ids :=
  ⟨hn, fun _ hid => .inl hid, fun _ _ _ => rfl, Nat.le_refl _⟩

theorem Becomes.trans {between : List Nat} (h : Becomes ts mid ids between)
    (k : Becomes mid ts' between ids') : Becomes ts ts' ids ids' := by
  refine ⟨k.nodup, fun id hid => ?_, fun id hlt hid => ?_, Nat.le_trans h.length k.length⟩
  · rcases k.from_old id hid with hmem | hle
    · exact h.from_old id hmem
    · exact .inr (Nat.le_trans h.length hle)
  · have hout : id ∉ between := fun hmem =>
      (h.from_old id hmem).elim hid fun hle => absurd hlt (Nat.not_lt.mpr hle)
    rw [k.others id (Nat.lt_of_lt_of_le hlt h.length) hout, h.others id hlt hid]

theorem Becomes.mono {more : List Nat} (h : Becomes ts ts' ids ids') (hsub : ids ⊆ more) :
    Becomes ts ts' more ids' :=
  ⟨h.nodup, fun id hid => (h.from_old id hid).imp_left fun hmem => hsub hmem,
    fun id hlt hid => h.others id hlt fun hmem => hid (hsub hmem), h.length⟩

/-- Tables that stand before and behind those that change stay as they are. -/
theorem Becomes.frame (pre post : List Nat) (h : Becomes ts ts' ids ids')
    (hn : (pre ++ ids ++ post).Nodup) (hlt : ∀ id ∈ pre ++ post, id < ts.length) :
    Becomes ts ts' (pre ++ ids ++ post) (pre ++ ids' ++ post) := by
  -- what changes is apart from what stands around it, as it was in between or is new
  have hapart : ∀ id ∈ ids', id ∉ pre ++ post := by
    intro id hid hmem
    rcases h.from_old id hid with hold | hle
    · simp only [List.nodup_append, List.mem_append] at hn hmem
      grind
    · exact absurd (hlt id hmem) (Nat.not_lt.mpr hle)
  refine ⟨?_, fun id hid => ?_, fun id hid hout => ?_, h.length⟩
  · simp only [List.nodup_append, List.mem_append] at hn hapart ⊢
    have := h.nodup
    grind
  · have := h.from_old id
    simp only [List.mem_append] at hid ⊢
    grind
  · exact h.others id hid fun hmem => hout (by simp [hmem])

/-- A change in one of the tables. -/
theorem becomes_put (hn : ids.Nodup) (hid : id ∈ ids) (name : String) (x : Item) :
    Becomes ts (ts.put id name x) ids ids := by
  refine ⟨hn, fun _ h => .inl h, fun k _ hk => ?_, Nat.le_of_eq (length_put ts id name x).symm⟩
  exact getElem?_put_of_ne name x fun e => hk (e ▸ hid)

/-- One more table. -/
theorem becomes_concat (ts : Tables) (entries : Entries Item) :
    Becomes ts (ts ++ [entries]) [] [ts.length] := by
  refine ⟨by simp, fun id hid => .inr ?_, fun id hlt _ => ?_, by simp⟩
  · exact Nat.le_of_eq (List.mem_singleton.mp hid).symm
  · exact List.getElem?_append_left hlt

/-! ## New values -/

/-- Two items that are held one after the other. -/
theorem Becomes.append {a b : List Nat} (h : Becomes ts mid [] a) (ha : ∀ id ∈ a, id < mid.length)
    (k : Becomes mid ts' [] b) : Becomes ts ts' [] (a ++ b) := by
  have hframe := k.frame a [] (by simpa using h.nodup) (by simpa using ha)
  exact h.trans (by simpa using hframe)

/-- A change that adds tables leaves an item as it was. -/
theorem Holds.of_becomes (h : Holds ts v x ids) (k : Becomes ts ts' [] ids') :
    Holds ts' v x ids :=
  h.congr fun id hid => k.others id (h.lt_length id hid) List.not_mem_nil

mutual

/-- A new value is held in new tables. -/
theorem holds_hold : (v : Value) → (ts : Tables) →
    ∃ ids, Holds (ts.hold v).2 v (ts.hold v).1 ids ∧ Becomes ts (ts.hold v).2 [] ids
  | .null, ts => ⟨[], .null, .refl ts List.nodup_nil⟩
  | .bool b, ts => ⟨[], .bool b, .refl ts List.nodup_nil⟩
  | .int n, ts => ⟨[], .int n, .refl ts List.nodup_nil⟩
  | .double x, ts => ⟨[], .double x, .refl ts List.nodup_nil⟩
  | .text s, ts => ⟨[], .text s, .refl ts List.nodup_nil⟩
  | .list vs, ts => by
    obtain ⟨ids, items, hnew⟩ := holds_holdItems vs ts
    exact ⟨ids, .list items, hnew⟩
  | .table es, ts => by
    obtain ⟨ids, inside, hnew⟩ := holds_holdEntries es ts
    have hlast := becomes_concat (ts.holdEntries es).2 (ts.holdEntries es).1
    have hframe := hlast.frame [] ids (by simpa using hnew.nodup)
      (by simpa using inside.lt_length)
    rw [hold]
    refine ⟨(ts.holdEntries es).2.length :: ids, .table List.getElem?_concat_length ?_,
      hnew.trans (by simpa using hframe)⟩
    exact inside.congr fun id hid =>
      hlast.others id (inside.lt_length id hid) List.not_mem_nil

theorem holds_holdItems : (vs : List Value) → (ts : Tables) →
    ∃ ids, HoldsItems (ts.holdItems vs).2 vs (ts.holdItems vs).1 ids ∧
      Becomes ts (ts.holdItems vs).2 [] ids
  | [], ts => ⟨[], .nil, .refl ts List.nodup_nil⟩
  | v :: vs, ts => by
    obtain ⟨a, first, hfirst⟩ := holds_hold v ts
    obtain ⟨b, rest, hrest⟩ := holds_holdItems vs (ts.hold v).2
    exact ⟨a ++ b, .cons (first.of_becomes hrest) rest, hfirst.append first.lt_length hrest⟩

theorem holds_holdEntries : (es : List (String × Value)) → (ts : Tables) →
    ∃ ids, HoldsEntries (ts.holdEntries es).2 es (ts.holdEntries es).1 ids ∧
      Becomes ts (ts.holdEntries es).2 [] ids
  | [], ts => ⟨[], .nil, .refl ts List.nodup_nil⟩
  | (name, v) :: rest, ts => by
    obtain ⟨a, first, hfirst⟩ := holds_hold v ts
    obtain ⟨b, rest, hrest⟩ := holds_holdEntries rest (ts.hold v).2
    exact ⟨a ++ b, .cons (first.of_becomes hrest) rest, hfirst.append first.lt_length hrest⟩

end

/-- What a new value is held as is that value, in tables of its own. -/
theorem nests_hold (v : Value) (ts : Tables) : (ts.hold v).2.Nests v (ts.hold v).1 := by
  obtain ⟨ids, hholds, hnew⟩ := holds_hold v ts
  exact ⟨ids, hnew.nodup, hholds⟩

/-! ## Laying a value over another -/

/-- What stands under a name in a table and in its value: nothing in either, or an item and its
value. -/
inductive HoldsAt (ts : Tables) : Option Value → Option Item → List Nat → Prop where
  | nothing : HoldsAt ts none none []
  | item {v : Value} {x : Item} {ids : List Nat} (h : Holds ts v x ids) :
      HoldsAt ts (some v) (some x) ids

/-- The place of a name among entries: what stands there, and that anything else may be put there
instead. -/
theorem HoldsEntries.place (name : String) (h : HoldsEntries ts es entries ids) :
    ∃ pre a post, ids = pre ++ a ++ post ∧
      HoldsAt ts (Entries.find? name es) (Entries.find? name entries) a ∧
      ∀ {ts' v x b}, (∀ id ∈ pre ++ post, ts'[id]? = ts[id]?) → Holds ts' v x b →
        HoldsEntries ts' (Entries.put name v es) (Entries.put name x entries)
          (pre ++ b ++ post) := by
  induction es generalizing entries ids with
  | nil =>
    cases h
    refine ⟨[], [], [], rfl, .nothing, fun _ hx => ?_⟩
    simpa [Entries.put] using HoldsEntries.cons hx .nil
  | cons e es ih =>
    cases h with
    | @cons n w y _ entries a b first rest =>
      by_cases hn : n = name
      · simp only [Entries.find?, Entries.put, if_pos hn]
        refine ⟨[], a, b, rfl, .item first, fun hpost hx => ?_⟩
        simpa using HoldsEntries.cons hx (rest.congr (by simpa using hpost))
      · obtain ⟨pre, c, post, rfl, hat, hput⟩ := ih rest
        simp only [Entries.find?, Entries.put, if_neg hn]
        refine ⟨a ++ pre, c, post, by simp, hat, fun hagree hx => ?_⟩
        rw [List.append_assoc, List.forall_mem_append] at hagree
        have hplaced := hput hagree.2 hx
        simpa using HoldsEntries.cons (first.congr hagree.1) hplaced

/-- A value is laid over nothing or over what is no table as if it were put there. -/
theorem HoldsAt.overlay_eq {old : Option Value} {found : Option Item}
    (h : HoldsAt ts old found ids) (hfound : ∀ inner, found ≠ some (.table inner)) (v : Value) :
    overlay old v = v := by
  cases h with
  | nothing => exact overlay_none v
  | item h =>
    cases h with
    | table => exact absurd rfl (hfound _)
    | _ => cases v <;> rfl

section InTable

variable {pre a b post : List Nat}

theorem mem_of_mem_around {k : Nat} (h : k ∈ pre ++ post) : k ∈ id :: (pre ++ a ++ post) := by
  simp only [List.mem_cons, List.mem_append] at h ⊢
  tauto

/-- The tables of an entry change, in a table with other ones around them. -/
theorem Becomes.inTable (h : Becomes ts ts' a b) (hn : (id :: (pre ++ a ++ post)).Nodup)
    (hlt : ∀ k ∈ id :: (pre ++ a ++ post), k < ts.length) :
    Becomes ts ts' (id :: (pre ++ a ++ post)) (id :: (pre ++ b ++ post)) := by
  have hrest : ∀ k ∈ id :: pre ++ post, k < ts.length :=
    List.forall_mem_cons.mpr ⟨hlt id List.mem_cons_self, fun k hk => hlt k (mem_of_mem_around hk)⟩
  simpa using h.frame (id :: pre) post (by simpa using hn) hrest

/-- What stands around the tables of an entry is apart from them. -/
theorem apart_of_nodup (hn : (id :: (pre ++ a ++ post)).Nodup) :
    a.Nodup ∧ id ∉ a ∧ ∀ k ∈ pre ++ post, k ≠ id ∧ k ∉ a := by
  simp only [List.nodup_cons, List.nodup_append, List.mem_append] at hn ⊢
  grind

end InTable

/-- A new value in the place of what stands under a name in a table. -/
theorem holds_putNew (hn : (id :: ids).Nodup) (hread : ts[id]? = some entries)
    (inside : HoldsEntries ts es entries ids) (name : String) (v : Value) :
    ∃ ids', Holds (ts.putNew id name v) (.table (Entries.put name v es)) (.table id) ids' ∧
      Becomes ts (ts.putNew id name v) (id :: ids) ids' := by
  have hlt : ∀ k ∈ id :: ids, k < ts.length :=
    List.forall_mem_cons.mpr ⟨lt_of_getElem? hread, inside.lt_length⟩
  obtain ⟨pre, a, post, rfl, -, hput⟩ := inside.place name
  obtain ⟨b, hholds, hnew⟩ := holds_hold v ts
  have hbecomes := (hnew.mono (List.nil_subset a)).inTable hn hlt
  have hkept : ∀ k < ts.length, (ts.hold v).2[k]? = ts[k]? := fun k hk =>
    hnew.others k hk List.not_mem_nil
  -- the new value and what stands around its place are not in the table that is changed
  have hvalue : Holds (ts.putNew id name v) v (ts.hold v).1 b :=
    hholds.congr fun k hk => getElem?_put_of_ne name _ fun e =>
      (apart_of_nodup hbecomes.nodup).2.1 (e ▸ hk)
  have haround : ∀ k ∈ pre ++ post, (ts.putNew id name v)[k]? = ts[k]? := fun k hk =>
    (getElem?_put_of_ne name _ ((apart_of_nodup hn).2.2 k hk).1).trans
      (hkept k (hlt k (mem_of_mem_around hk)))
  have hthere := getElem?_put_self name (ts.hold v).1
    ((hkept id (hlt id List.mem_cons_self)).trans hread)
  exact ⟨id :: (pre ++ b ++ post), .table hthere (hput haround hvalue),
    hbecomes.trans (becomes_put hbecomes.nodup List.mem_cons_self name _)⟩

/-- A table under a name in another one, and what a change in it makes of that one. -/
theorem holds_inner {inner : Nat} (hn : (id :: ids).Nodup) (hread : ts[id]? = some entries)
    (inside : HoldsEntries ts es entries ids)
    (hinner : Entries.find? name entries = some (.table inner)) :
    ∃ old a, Entries.find? name es = some (.table old) ∧ a.Nodup ∧
      Holds ts (.table old) (.table inner) a ∧
      ∀ {ts' new b}, Holds ts' (.table new) (.table inner) b → Becomes ts ts' a b →
        ∃ ids', Holds ts' (.table (Entries.put name (.table new) es)) (.table id) ids' ∧
          Becomes ts ts' (id :: ids) ids' := by
  have hlt : ∀ k ∈ id :: ids, k < ts.length :=
    List.forall_mem_cons.mpr ⟨lt_of_getElem? hread, inside.lt_length⟩
  obtain ⟨pre, a, post, rfl, hat, hput⟩ := inside.place name
  obtain ⟨ha, hid, hrest⟩ := apart_of_nodup hn
  rw [hinner] at hat
  generalize hes : Entries.find? name es = found at hat
  cases hat with
  | item h =>
    cases h with
    | @table old _ _ ids there below =>
      refine ⟨old, inner :: ids, rfl, ha, .table there below, fun {ts' new b} hnew hbecomes => ?_⟩
      have hkept : ∀ k ∈ pre ++ post, ts'[k]? = ts[k]? := fun k hk =>
        hbecomes.others k (hlt k (mem_of_mem_around hk)) (hrest k hk).2
      have hplaced := hput hkept hnew
      rw [Entries.put_eq_self hinner] at hplaced
      have hthere := (hbecomes.others id (hlt id List.mem_cons_self) hid).trans hread
      exact ⟨id :: (pre ++ b ++ post), .table hthere hplaced, hbecomes.inTable hn hlt⟩

mutual

/-- A new value over the entry of a table. -/
theorem holds_lay (name : String) : (v : Value) → {ts : Tables} → {es : Entries Value} →
    {id : Nat} → {ids : List Nat} → Holds ts (.table es) (.table id) ids → ids.Nodup →
    ∃ ids', Holds (ts.lay id name v)
        (.table (Entries.put name (overlay (Entries.find? name es) v) es)) (.table id) ids' ∧
      Becomes ts (ts.lay id name v) ids ids'
  | .null, _, _, _, _, .table hread inside, hn => holds_putNew hn hread inside name .null
  | .bool b, _, _, _, _, .table hread inside, hn => holds_putNew hn hread inside name (.bool b)
  | .int n, _, _, _, _, .table hread inside, hn => holds_putNew hn hread inside name (.int n)
  | .double x, _, _, _, _, .table hread inside, hn => holds_putNew hn hread inside name (.double x)
  | .text s, _, _, _, _, .table hread inside, hn => holds_putNew hn hread inside name (.text s)
  | .list vs, _, _, _, _, .table hread inside, hn => holds_putNew hn hread inside name (.list vs)
  | .table source, ts, es, id, _, @Holds.table _ _ entries _ _ hread inside, hn => by
    have hentries : ts.entries id = entries := by rw [Tables.entries, hread]; rfl
    rw [lay]
    cases hinner : ts.inner? id name with
    | some inner =>
      rw [inner?_eq_some, hentries] at hinner
      obtain ⟨old, ids₀, hold, hn₀, hthere, hback⟩ := holds_inner hn hread inside hinner
      obtain ⟨ids₁, hmerged, hbecomes⟩ := holds_merge source hthere hn₀
      rw [hold]
      exact hback hmerged hbecomes
    | none =>
      obtain ⟨pre, a, post, -, hat, -⟩ := inside.place name
      have hno : ∀ inner, Entries.find? name entries ≠ some (.table inner) := fun inner h => by
        rw [← hentries, ← inner?_eq_some, hinner] at h
        exact absurd h (by simp)
      rw [hat.overlay_eq hno]
      exact holds_putNew hn hread inside name (.table source)

/-- Laying a new table over nested tables makes such tables of them, for its value laid over
theirs. -/
theorem holds_merge : (source : List (String × Value)) → {ts : Tables} → {es : Entries Value} →
    {id : Nat} → {ids : List Nat} → Holds ts (.table es) (.table id) ids → ids.Nodup →
    ∃ ids', Holds (ts.merge id source) (.table (mergeEntries es source)) (.table id) ids' ∧
      Becomes ts (ts.merge id source) ids ids'
  | [], ts, _, _, ids, h, hn => ⟨ids, h, .refl ts hn⟩
  | (name, v) :: rest, _, _, _, _, h, hn => by
    obtain ⟨ids₁, hlaid, hfirst⟩ := holds_lay name v h hn
    obtain ⟨ids', hmerged, hrest⟩ := holds_merge rest hlaid hfirst.nodup
    exact ⟨ids', hmerged, hfirst.trans hrest⟩

end

theorem Nests.merge (h : ts.Nests (.table es) (.table id)) (source : Entries Value) :
    (ts.merge id source).Nests (.table (Settings.merge es source)) (.table id) := by
  obtain ⟨ids, hn, hholds⟩ := h
  obtain ⟨ids', hmerged, hbecomes⟩ := holds_merge source hholds hn
  exact ⟨ids', hbecomes.nodup, hmerged⟩

end TypedMarkup.Settings.Tables
