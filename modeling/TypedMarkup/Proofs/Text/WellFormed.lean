import TypedMarkup.Proofs.Text.Case
import TypedMarkup.Proofs.Text.Utf8

/-!
# Well formed UTF-8

What is read without a gap was well formed: `scan` gives characters only just on the bytes of these
characters (`scan_eq_map_some_iff`). The proof carries along the bytes of the character that is
being read (`Began`); `lead_eq_opening` says what its first byte can be, and `Began.encodeChar_last`
that the byte which completes it makes the bytes of a character.

* `repair_encode_append`: any bytes are read the same behind the bytes of a text;
* `encode_repair`: bytes whose text has no U+FFFD are the bytes of this text.
-/

namespace TypedMarkup.Text.Utf8

/-! ## First bytes -/

/-- A byte that is a character of its own. -/
theorem lead_eq_single {b : Nat} {c : Char} (h : lead b = .single c) :
    b < 0x80 ∧ c = Char.ofNat b := by
  unfold lead at h
  split at h
  · exact ⟨‹_›, (Lead.single.inj h).symm⟩
  · repeat' split at h
    all_goals exact Lead.noConfusion h

/-- A byte that opens a longer character announces two, three or four bytes. The bounds on the
second byte leave out forms longer than needed, surrogates and all beyond U+10FFFF. -/
theorem lead_eq_opening {b : Nat} {p : Pending} (h : lead b = .opening p) :
    (0xC2 ≤ b ∧ b < 0xE0 ∧ p = ⟨1, 0x80, 0xBF, b % 0x20⟩) ∨
    (∃ least greatest, 0xE0 ≤ b ∧ b < 0xF0 ∧ p = ⟨2, least, greatest, b % 0x10⟩ ∧
      0x80 ≤ least ∧ greatest ≤ 0xBF ∧ (b = 0xE0 → least = 0xA0) ∧ (b = 0xED → greatest = 0x9F)) ∨
    (∃ least greatest, 0xF0 ≤ b ∧ b < 0xF5 ∧ p = ⟨3, least, greatest, b % 8⟩ ∧
      0x80 ≤ least ∧ greatest ≤ 0xBF ∧ (b = 0xF0 → least = 0x90) ∧
      (b = 0xF4 → greatest = 0x8F)) := by
  unfold lead at h
  split at h
  · cases h
  split at h
  · cases h
  split at h
  · cases h
    exact .inl ⟨by omega, by omega, rfl⟩
  split at h
  · cases h
    rename_i hb
    exact .inr (.inl ⟨0xA0, 0xBF, by omega, by omega, by rw [hb], by omega, by omega, fun _ => rfl,
      by omega⟩)
  split at h
  · cases h
    rename_i hb
    exact .inr (.inl ⟨0x80, 0x9F, by omega, by omega, by rw [hb], by omega, by omega, by omega,
      fun _ => rfl⟩)
  split at h
  · cases h
    exact .inr (.inl ⟨0x80, 0xBF, by omega, by omega, rfl, by omega, by omega, by omega, by omega⟩)
  split at h
  · cases h
    rename_i hb
    exact .inr (.inr ⟨0x90, 0xBF, by omega, by omega, by rw [hb], by omega, by omega, fun _ => rfl,
      by omega⟩)
  split at h
  · cases h
    exact .inr (.inr ⟨0x80, 0xBF, by omega, by omega, rfl, by omega, by omega, by omega, by omega⟩)
  split at h
  · cases h
    rename_i hb
    exact .inr (.inr ⟨0x80, 0x8F, by omega, by omega, by rw [hb], by omega, by omega, by omega,
      fun _ => rfl⟩)
  · cases h

/-! ## The bytes of a character -/

theorem toUInt8_of_eq {n : Nat} {b : UInt8} (h : n = b.toNat) : n.toUInt8 = b := by
  rw [h, Nat.toUInt8_eq, UInt8.ofNat_toNat]

section Bytes

variable {b d e f : UInt8}

theorem encodeChar_one (hb : b.toNat < 0x80) : encodeChar (Char.ofNat b.toNat) = [b] := by
  rw [encodeChar, toNat_ofNat (by simp only [Nat.isValidChar]; omega)]
  simp only [if_pos hb, toUInt8_of_eq rfl]

theorem encodeChar_two (hb : 0xC2 ≤ b.toNat ∧ b.toNat < 0xE0)
    (hd : 0x80 ≤ d.toNat ∧ d.toNat ≤ 0xBF) :
    encodeChar (Char.ofNat (b.toNat % 0x20 * 0x40 + d.toNat % 0x40)) = [b, d] := by
  rw [encodeChar, toNat_ofNat (by simp only [Nat.isValidChar]; omega)]
  rw [if_neg (by omega), if_pos (by omega), toUInt8_of_eq (b := b) (by omega),
    toUInt8_of_eq (b := d) (by omega)]

theorem encodeChar_three (hb : 0xE0 ≤ b.toNat ∧ b.toNat < 0xF0)
    (hd : 0x80 ≤ d.toNat ∧ d.toNat ≤ 0xBF) (he : 0x80 ≤ e.toNat ∧ e.toNat ≤ 0xBF)
    (hlong : b.toNat = 0xE0 → 0xA0 ≤ d.toNat) (hsurrogate : b.toNat = 0xED → d.toNat ≤ 0x9F) :
    encodeChar (Char.ofNat ((b.toNat % 0x10 * 0x40 + d.toNat % 0x40) * 0x40 + e.toNat % 0x40)) =
      [b, d, e] := by
  rw [encodeChar, toNat_ofNat (by simp only [Nat.isValidChar]; omega)]
  rw [if_neg (by omega), if_neg (by omega), if_pos (by omega), toUInt8_of_eq (b := b) (by omega),
    toUInt8_of_eq (b := d) (by omega), toUInt8_of_eq (b := e) (by omega)]

theorem encodeChar_four (hb : 0xF0 ≤ b.toNat ∧ b.toNat < 0xF5)
    (hd : 0x80 ≤ d.toNat ∧ d.toNat ≤ 0xBF) (he : 0x80 ≤ e.toNat ∧ e.toNat ≤ 0xBF)
    (hf : 0x80 ≤ f.toNat ∧ f.toNat ≤ 0xBF) (hlong : b.toNat = 0xF0 → 0x90 ≤ d.toNat)
    (hbeyond : b.toNat = 0xF4 → d.toNat ≤ 0x8F) :
    encodeChar (Char.ofNat (((b.toNat % 8 * 0x40 + d.toNat % 0x40) * 0x40 + e.toNat % 0x40) * 0x40 +
      f.toNat % 0x40)) = [b, d, e, f] := by
  rw [encodeChar, toNat_ofNat (by simp only [Nat.isValidChar]; omega)]
  rw [if_neg (by omega), if_neg (by omega), if_neg (by omega), toUInt8_of_eq (b := b) (by omega),
    toUInt8_of_eq (b := d) (by omega), toUInt8_of_eq (b := e) (by omega),
    toUInt8_of_eq (b := f) (by omega)]

end Bytes

/-! ## Characters on the way -/

/-- These bytes begin a character and leave it pending. -/
inductive Began : List UInt8 → Pending → Prop where
  | first {b : UInt8} {p : Pending} : lead b.toNat = .opening p → Began [b] p
  | next {bs : List UInt8} {p : Pending} {b : UInt8} : Began bs p → 1 < p.owed →
      p.least ≤ b.toNat ∧ b.toNat ≤ p.greatest →
      Began (bs ++ [b]) ⟨p.owed - 1, 0x80, 0xBF, p.bits * 0x40 + b.toNat % 0x40⟩

variable {bs : List UInt8} {p : Pending}

theorem Began.owed_bounds (h : Began bs p) : 1 ≤ p.owed ∧ p.owed ≤ 3 := by
  induction h with
  | first hlead =>
    rcases lead_eq_opening hlead with ⟨-, -, rfl⟩ | ⟨_, _, -, -, rfl, -⟩ | ⟨_, _, -, -, rfl, -⟩ <;>
      simp only <;> omega
  | next _ howed _ ih => simp only; omega

/-- The byte that completes a character makes the bytes of this character. The cases are the
lengths that the first byte can announce. -/
theorem Began.encodeChar_last {b : UInt8} (h : Began bs p) (howed : p.owed = 1)
    (hb : p.least ≤ b.toNat ∧ b.toNat ≤ p.greatest) :
    encodeChar (Char.ofNat (p.bits * 0x40 + b.toNat % 0x40)) = bs ++ [b] := by
  cases h with
  | first hlead =>
    rcases lead_eq_opening hlead with ⟨hl, hg, rfl⟩ | ⟨_, _, -, -, rfl, -⟩ | ⟨_, _, -, -, rfl, -⟩
    · exact encodeChar_two ⟨hl, hg⟩ hb
    all_goals exact absurd howed (by simp)
  | @next _ q d h _ hd =>
    have howed' : q.owed = 2 := by simp only at howed; omega
    cases h with
    | first hlead =>
      rcases lead_eq_opening hlead with ⟨-, -, rfl⟩ | ⟨least, greatest, hl, hg, rfl, hrest⟩ |
        ⟨_, _, -, -, rfl, -⟩
      · exact absurd howed' (by simp)
      · obtain ⟨hleast, hgreatest, hlong, hsurrogate⟩ := hrest
        simp only at hd
        exact encodeChar_three ⟨hl, hg⟩ ⟨by omega, by omega⟩ hb (by omega) (by omega)
      · exact absurd howed' (by simp)
    | @next _ r e h _ he =>
      have howed'' : r.owed = 3 := by simp only at howed'; omega
      cases h with
      | first hlead =>
        rcases lead_eq_opening hlead with ⟨-, -, rfl⟩ | ⟨_, _, -, -, rfl, -⟩ |
          ⟨least, greatest, hl, hg, rfl, hrest⟩
        · exact absurd howed'' (by simp)
        · exact absurd howed'' (by simp)
        · obtain ⟨hleast, hgreatest, hlong, hbeyond⟩ := hrest
          simp only at he
          exact encodeChar_four ⟨hl, hg⟩ ⟨by omega, by omega⟩ hd hb (by omega) (by omega)
      | next h =>
        have := h.owed_bounds
        simp only at howed''
        omega

theorem none_cons_ne_map_some (xs : List (Option Char)) (cs : List Char) :
    none :: xs ≠ cs.map some := by
  intro h
  obtain ⟨c, _, -, hc, -⟩ := List.map_eq_cons_iff.mp h.symm
  exact absurd hc (by simp)

/-- Bytes that are read without a gap, from the start or after those of a pending character, are
the bytes of what is read. -/
theorem bytes_of_scan (bs : List UInt8) (cs : List Char) :
    (scan none bs = cs.map some → bs = cs.flatMap encodeChar) ∧
      ∀ begun p, Began begun p → scan (some p) bs = cs.map some →
        begun ++ bs = cs.flatMap encodeChar := by
  induction bs generalizing cs with
  | nil =>
    constructor
    · intro h
      rw [scan, eq_comm, List.map_eq_nil_iff] at h
      rw [h, List.flatMap_nil]
    · intro begun p _ h
      exact absurd h (none_cons_ne_map_some [] cs)
  | cons b bs ih =>
    constructor
    · intro h
      rw [scan] at h
      cases hlead : lead b.toNat with
      | single c =>
        obtain ⟨hb, hc⟩ := lead_eq_single hlead
        simp only [hlead] at h
        obtain ⟨c', cs, rfl, hc', hcs⟩ := List.map_eq_cons_iff.mp h.symm
        rw [List.flatMap_cons, ← (ih cs).1 hcs.symm, Option.some.inj hc', hc, encodeChar_one hb,
          List.singleton_append]
      | opening p =>
        simp only [hlead] at h
        exact (ih cs).2 [b] p (.first hlead) h
      | invalid =>
        simp only [hlead] at h
        exact absurd h (none_cons_ne_map_some _ cs)
    · intro begun p hbegan h
      rw [scan] at h
      split at h
      · rename_i hb
        simp only at h
        split at h
        · have howed : p.owed = 1 := by have := hbegan.owed_bounds; omega
          obtain ⟨c, cs, rfl, hc, hcs⟩ := List.map_eq_cons_iff.mp h.symm
          rw [List.flatMap_cons, ← (ih cs).1 hcs.symm, Option.some.inj hc,
            hbegan.encodeChar_last howed hb, List.append_assoc, List.singleton_append]
        · rw [List.append_cons]
          exact (ih cs).2 _ _ (hbegan.next (by omega) hb) h
      · exact absurd h (none_cons_ne_map_some _ cs)

/-- Exactly the bytes of characters are read as these characters. -/
theorem scan_eq_map_some_iff {cs : List Char} :
    scan none bs = cs.map some ↔ bs = cs.flatMap encodeChar :=
  ⟨(bytes_of_scan bs cs).1, fun h => by rw [h, scan_encodeChars]⟩

/-! ## Reading any bytes -/

/-- The bytes of a text in front are read as this text, and do not change what comes of the rest. -/
theorem repair_encode_append (s : String) (bs : List UInt8) :
    repair (encode s ++ bs) = s ++ repair bs := by
  rw [repair, encode, scan_encodeChars_append, List.map_append, List.map_map, String.ofList_append,
    ← repair]
  have hid : (fun c : Option Char => c.getD replacement) ∘ some = id := rfl
  rw [hid, List.map_id, String.ofList_toList]

theorem repair_encode (s : String) : repair (encode s) = s := by
  have h := repair_encode_append s []
  rwa [List.append_nil, show repair [] = "" from rfl, String.append_empty] at h

/-- Bytes whose text has no U+FFFD are the bytes of this text. -/
theorem encode_repair (h : replacement ∉ (repair bs).toList) : encode (repair bs) = bs := by
  have hscan (xs : List (Option Char)) (hxs : replacement ∉ xs.map fun c => c.getD replacement) :
      xs = (xs.map fun c => c.getD replacement).map some := by
    induction xs with
    | nil => rfl
    | cons x xs ih =>
      rw [List.map_cons, List.mem_cons, not_or] at hxs
      cases x with
      | none => exact absurd rfl hxs.1
      | some c => rw [List.map_cons, List.map_cons, ← ih hxs.2]; rfl
  rw [repair, String.toList_ofList] at h
  rw [encode, repair, String.toList_ofList, ← scan_eq_map_some_iff.mp (hscan _ h)]

end TypedMarkup.Text.Utf8
