import TypedMarkup.Text.Utf8

/-!
# UTF-8 is read back

The bytes of a text are well formed, and they are read as the text. `lead_two`, `lead_three` and
`lead_four` say what the first byte of a longer character announces; the next byte of a character is
always in the bounds announced, because no character is a surrogate or beyond U+10FFFF.
-/

namespace TypedMarkup.Text.Utf8

/-- No character is a surrogate or beyond U+10FFFF. -/
theorem toNat_valid (c : Char) : c.toNat < 0xD800 ∨ 0xDFFF < c.toNat ∧ c.toNat < 0x110000 :=
  c.valid

theorem toNat_toUInt8 {n : Nat} (h : n < 256) : n.toUInt8.toNat = n := by
  rw [Nat.toUInt8_eq, UInt8.toNat_ofNat', Nat.mod_eq_of_lt h]

/-! ## First bytes -/

theorem lead_two {b : Nat} (hl : 0xC2 ≤ b) (hg : b < 0xE0) :
    lead b = .opening ⟨1, 0x80, 0xBF, b % 0x20⟩ := by
  unfold lead
  rw [if_neg (by omega), if_neg (by omega), if_pos hg]

/-- The first byte of a character of three bytes leaves room for the second. -/
theorem lead_three {n : Nat} (hl : 0x800 ≤ n) (hg : n < 0x10000)
    (hv : n < 0xD800 ∨ 0xDFFF < n) :
    ∃ least greatest, lead (0xE0 + n / 0x1000) = .opening ⟨2, least, greatest, n / 0x1000⟩ ∧
      least ≤ 0x80 + n / 0x40 % 0x40 ∧ 0x80 + n / 0x40 % 0x40 ≤ greatest := by
  unfold lead
  rw [if_neg (by omega), if_neg (by omega), if_neg (by omega)]
  by_cases hfirst : 0xE0 + n / 0x1000 = 0xE0
  · rw [if_pos hfirst]
    exact ⟨_, _, by rw [show n / 0x1000 = 0 by omega], by omega, by omega⟩
  by_cases hbefore : 0xE0 + n / 0x1000 = 0xED
  · rw [if_neg hfirst, if_pos hbefore]
    exact ⟨_, _, by rw [show n / 0x1000 = 0xD by omega], by omega, by omega⟩
  · rw [if_neg hfirst, if_neg hbefore, if_pos (by omega)]
    exact ⟨_, _, by rw [show (0xE0 + n / 0x1000) % 0x10 = n / 0x1000 by omega], by omega, by omega⟩

/-- The first byte of a character of four bytes leaves room for the second. -/
theorem lead_four {n : Nat} (hl : 0x10000 ≤ n) (hg : n < 0x110000) :
    ∃ least greatest, lead (0xF0 + n / 0x40000) = .opening ⟨3, least, greatest, n / 0x40000⟩ ∧
      least ≤ 0x80 + n / 0x1000 % 0x40 ∧ 0x80 + n / 0x1000 % 0x40 ≤ greatest := by
  unfold lead
  rw [if_neg (by omega), if_neg (by omega), if_neg (by omega), if_neg (by omega),
    if_neg (by omega), if_neg (by omega)]
  by_cases hfirst : 0xF0 + n / 0x40000 = 0xF0
  · rw [if_pos hfirst]
    exact ⟨_, _, by rw [show n / 0x40000 = 0 by omega], by omega, by omega⟩
  by_cases hlast : 0xF0 + n / 0x40000 = 0xF4
  · rw [if_neg hfirst, if_neg (by omega), if_pos hlast]
    exact ⟨_, _, by rw [show n / 0x40000 = 4 by omega], by omega, by omega⟩
  · rw [if_neg hfirst, if_pos (by omega)]
    exact ⟨_, _, by rw [show (0xF0 + n / 0x40000) % 8 = n / 0x40000 by omega], by omega, by omega⟩

/-! ## Reading on -/

variable {b : UInt8} {bs : List UInt8}

theorem scan_opening {p : Pending} (h : lead b.toNat = .opening p) :
    scan none (b :: bs) = scan (some p) bs := by
  rw [scan, h]

theorem scan_next {p : Pending} (howed : 1 < p.owed)
    (h : p.least ≤ b.toNat ∧ b.toNat ≤ p.greatest) :
    scan (some p) (b :: bs) =
      scan (some ⟨p.owed - 1, 0x80, 0xBF, p.bits * 0x40 + b.toNat % 0x40⟩) bs := by
  rw [scan, if_pos h, if_neg (Nat.not_le.mpr howed)]

theorem scan_last {p : Pending} (howed : p.owed = 1)
    (h : p.least ≤ b.toNat ∧ b.toNat ≤ p.greatest) :
    scan (some p) (b :: bs) =
      some (Char.ofNat (p.bits * 0x40 + b.toNat % 0x40)) :: scan none bs := by
  rw [scan, if_pos h, if_pos (Nat.le_of_eq howed)]

/-- The bytes of a character are read as this character. -/
theorem scan_encodeChar (c : Char) (bs : List UInt8) :
    scan none (encodeChar c ++ bs) = some c :: scan none bs := by
  have hc : Char.ofNat c.toNat = c := Char.ofNat_toNat c
  have hv := toNat_valid c
  unfold encodeChar
  generalize c.toNat = n at hc hv
  simp only
  split
  · rename_i h
    have hb := toNat_toUInt8 (n := n) (by omega)
    rw [List.cons_append, List.nil_append, scan, hb, lead, if_pos h]
    simp only [hc]
  split
  · have hb := toNat_toUInt8 (n := 0xC0 + n / 0x40) (by omega)
    have hd := toNat_toUInt8 (n := 0x80 + n % 0x40) (by omega)
    have hlead := lead_two (b := (0xC0 + n / 0x40).toUInt8.toNat) (by omega) (by omega)
    rw [List.cons_append, List.cons_append, List.nil_append, scan_opening hlead,
      scan_last rfl (by constructor <;> simp only [hd] <;> omega)]
    simp only [hb, hd]
    rw [show (0xC0 + n / 0x40) % 0x20 * 0x40 + (0x80 + n % 0x40) % 0x40 = n by omega, hc]
  split
  · obtain ⟨least, greatest, hlead, hl, hg⟩ :=
      lead_three (n := n) (by omega) (by omega) (by omega)
    have hb := toNat_toUInt8 (n := 0xE0 + n / 0x1000) (by omega)
    have hd := toNat_toUInt8 (n := 0x80 + n / 0x40 % 0x40) (by omega)
    have he := toNat_toUInt8 (n := 0x80 + n % 0x40) (by omega)
    rw [List.cons_append, List.cons_append, List.cons_append, List.nil_append,
      scan_opening (hb.symm ▸ hlead), scan_next (by simp) (hd.symm ▸ ⟨hl, hg⟩),
      scan_last rfl (by constructor <;> simp only [he] <;> omega)]
    simp only [hd, he]
    rw [show (n / 0x1000 * 0x40 + (0x80 + n / 0x40 % 0x40) % 0x40) * 0x40 +
      (0x80 + n % 0x40) % 0x40 = n by omega, hc]
  · obtain ⟨least, greatest, hlead, hl, hg⟩ := lead_four (n := n) (by omega) (by omega)
    have hb := toNat_toUInt8 (n := 0xF0 + n / 0x40000) (by omega)
    have hd := toNat_toUInt8 (n := 0x80 + n / 0x1000 % 0x40) (by omega)
    have he := toNat_toUInt8 (n := 0x80 + n / 0x40 % 0x40) (by omega)
    have hf := toNat_toUInt8 (n := 0x80 + n % 0x40) (by omega)
    rw [List.cons_append, List.cons_append, List.cons_append, List.cons_append, List.nil_append,
      scan_opening (hb.symm ▸ hlead), scan_next (by simp) (hd.symm ▸ ⟨hl, hg⟩),
      scan_next (by simp) (by constructor <;> simp only [he] <;> omega),
      scan_last rfl (by constructor <;> simp only [hf] <;> omega)]
    simp only [hd, he, hf]
    rw [show ((n / 0x40000 * 0x40 + (0x80 + n / 0x1000 % 0x40) % 0x40) * 0x40 +
      (0x80 + n / 0x40 % 0x40) % 0x40) * 0x40 + (0x80 + n % 0x40) % 0x40 = n by omega, hc]

/-- The bytes of characters in front of any bytes are read as these characters. -/
theorem scan_encodeChars_append (cs : List Char) (bs : List UInt8) :
    scan none (cs.flatMap encodeChar ++ bs) = cs.map some ++ scan none bs := by
  induction cs with
  | nil => rfl
  | cons c cs ih =>
    rw [List.flatMap_cons, List.append_assoc, scan_encodeChar, ih, List.map_cons, List.cons_append]

theorem scan_encodeChars (cs : List Char) : scan none (cs.flatMap encodeChar) = cs.map some := by
  have h := scan_encodeChars_append cs []
  rwa [List.append_nil, show scan none [] = [] from rfl, List.append_nil] at h

/-- A text is read back from its bytes. -/
theorem decode?_encode (s : String) : decode? (encode s) = some s := by
  have hm (cs : List Char) : (cs.map some).mapM id = some cs := by
    induction cs with
    | nil => rfl
    | cons c cs ih => simp [ih]
  rw [decode?, encode, scan_encodeChars, hm, Option.map_some, String.ofList_toList]

end TypedMarkup.Text.Utf8
