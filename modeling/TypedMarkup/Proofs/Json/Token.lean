import TypedMarkup.Json.Printer
import TypedMarkup.Json.Token
import TypedMarkup.Proofs.Numeral
import TypedMarkup.Proofs.Text.Quoted

/-!
# Tokens are read back

`Spells cs ts` says that the characters `cs` are read as the tokens `ts` wherever a word may end
behind them. Marks, blanks and texts are read so whatever follows; a word (`spells_word`) needs the
character behind it to end it. The words that are written are a few names and the numbers
(`spells_decimal`, `spells_printDouble`); a written text is read character by character, where each
escape is read as the character that it is for (`scan_escapeChar`).
-/

namespace TypedMarkup.Json

variable {c : Char} {cs ds rest : List Char} {ts us : List Token}

/-! ## Spelling -/

/-- Whether a word may end before these characters. -/
def WordEnds : List Char → Prop
  | [] => True
  | c :: _ => endsWord c = true

theorem WordEnds.append (h : WordEnds cs) (hr : WordEnds rest) : WordEnds (cs ++ rest) := by
  cases cs with
  | nil => exact hr
  | cons c cs => exact h

/-- These characters are read as these tokens wherever a word may end behind them. -/
def Spells (cs : List Char) (ts : List Token) : Prop :=
  ∀ rest, WordEnds rest → scan .between (cs ++ rest) = (scan .between rest).map (ts ++ ·)

theorem scan_cons (mode : Mode) (c : Char) (cs : List Char) :
    scan mode (c :: cs) = (mode.step c).bind fun m => (scan m.1 cs).map (m.2 ++ ·) := by
  rw [scan]
  cases mode.step c with
  | none => rfl
  | some m => cases h : scan m.1 cs <;> simp [h]

/-- A character that ends no token. -/
theorem scan_of_step {mode mode' : Mode} (h : mode.step c = some (mode', [])) (cs : List Char) :
    scan mode (c :: cs) = scan mode' cs := by
  rw [scan_cons, h]
  cases h' : scan mode' cs <;> simp [h']

theorem Spells.append (h : Spells cs ts) (h' : Spells ds us) (hd : WordEnds ds) :
    Spells (cs ++ ds) (ts ++ us) := by
  intro rest hr
  rw [List.append_assoc, h _ (hd.append hr), h' rest hr, Option.map_map]
  congr 1
  exact funext fun vs => (List.append_assoc ts us vs).symm

theorem spells_nil : Spells [] [] := by
  intro rest _
  cases h : scan .between rest <;> simp [h]

/-- In front of a spelling may stand a mark. -/
theorem Spells.mark {t : Token} (hc : start c = (.between, [t])) (h : Spells cs ts) :
    Spells (c :: cs) (t :: ts) := by
  intro rest hr
  rw [List.cons_append, scan_cons, Mode.step, hc, Option.bind_some, h rest hr, Option.map_map]
  rfl

/-- In front of a spelling may stand blanks. -/
theorem Spells.blanks (hb : ∀ b ∈ ds, isSpace b = true) (h : Spells cs ts) :
    Spells (ds ++ cs) ts := by
  intro rest hr
  induction ds with
  | nil => exact h rest hr
  | cons b ds ih =>
    have hspace := hb b List.mem_cons_self
    have hstep : Mode.between.step b = some (.between, []) := by
      rw [Mode.step]
      unfold start
      split <;> simp_all [isSpace]
    rw [List.cons_append, List.cons_append, scan_of_step hstep]
    exact ih fun d hd => hb d (List.mem_cons_of_mem b hd)

/-! ## Words -/

/-- A character that no word ends at begins a word. -/
theorem start_of_endsWord_eq_false (h : endsWord c = false) : start c = (.word [c], []) := by
  unfold start
  split <;> simp_all [endsWord, isSpace]

theorem scan_word {w : List Char} (hw : ∀ c ∈ w, endsWord c = false) (hr : WordEnds rest)
    (read : List Char) :
    scan (.word read) (w ++ rest) =
      (word? (read.reverse ++ w)).bind fun t => (scan .between rest).map ([t] ++ ·) := by
  induction w generalizing read with
  | nil =>
    rw [List.nil_append, List.append_nil]
    cases rest with
    | nil =>
      change ((word? read.reverse).map fun t => [t]) = _
      cases word? read.reverse <;> rfl
    | cons c rest =>
      rw [scan_cons, Mode.step, if_pos (show endsWord c = true from hr), scan_cons, Mode.step]
      cases word? read.reverse with
      | none => rfl
      | some t => cases h : scan (start c).1 rest <;> simp [h]
  | cons c w ih =>
    have hc := hw c List.mem_cons_self
    have hstep : (Mode.word read).step c = some (.word (c :: read), []) := by
      rw [Mode.step, if_neg (by rw [hc]; exact Bool.false_ne_true)]
    rw [List.cons_append, scan_of_step hstep, ih fun d hd => hw d (List.mem_cons_of_mem c hd)]
    simp

/-- A word is read as the token that it spells. -/
theorem spells_word {w : List Char} {t : Token} (hne : w ≠ []) (hw : w.any endsWord = false)
    (ht : word? w = some t) : Spells w [t] := by
  intro rest hr
  have hw : ∀ c ∈ w, endsWord c = false := fun c hc =>
    Bool.eq_false_iff.mpr (List.any_eq_false.mp hw c hc)
  obtain ⟨c, w, rfl⟩ := List.exists_cons_of_ne_nil hne
  have hc := start_of_endsWord_eq_false (hw c List.mem_cons_self)
  have hstep : Mode.between.step c = some (.word [c], []) := by rw [Mode.step, hc]
  rw [List.cons_append, scan_of_step hstep,
    scan_word (fun d hd => hw d (List.mem_cons_of_mem c hd)) hr]
  simp [ht]

/-! ## Numbers -/

theorem endsWord_of_isNumeral (h : Numeral.isNumeral c = true) : endsWord c = false := by
  rw [Bool.eq_false_iff]
  intro he
  have hm : c ∈ [' ', '\t', '\n', '\r', '[', ']', '\x7b', '\x7d', ',', ':', '"'] := by
    have hmarks : "[]\x7b\x7d,:\"".toList = ['[', ']', '\x7b', '\x7d', ',', ':', '"'] := rfl
    rw [endsWord, hmarks] at he
    simpa [isSpace, or_assoc] using he
  have hno : [' ', '\t', '\n', '\r', '[', ']', '\x7b', '\x7d', ',', ':', '"'].any
      Numeral.isNumeral = false := by decide
  exact List.any_eq_false.mp hno c hm h

/-- A number is no other word: each of these has a letter that numbers are not written with. -/
theorem word?_of_read? {w : List Char} {n : Numeral.Number} (h : Numeral.read? w = some n) :
    word? w = some (ofNumber n) := by
  have hall := List.all_eq_true.mp (Numeral.isNumeral_of_read? h).2
  have hother {name : String} {c : Char} (hc : c ∈ name.toList)
      (hno : Numeral.isNumeral c = false) : String.ofList w ≠ name := by
    rintro rfl
    rw [String.toList_ofList] at hc
    exact Bool.false_ne_true (hno.symm.trans (hall c hc))
  unfold word?
  split
  · exact absurd ‹_› (hother (c := 'n') (by decide) (by decide))
  · exact absurd ‹_› (hother (c := 't') (by decide) (by decide))
  · exact absurd ‹_› (hother (c := 'f') (by decide) (by decide))
  · exact absurd ‹_› (hother (c := 'N') (by decide) (by decide))
  · exact absurd ‹_› (hother (c := 'I') (by decide) (by decide))
  · exact absurd ‹_› (hother (c := 'I') (by decide) (by decide))
  · rw [h, Option.map_some]

/-- What is read as a number is read as the token of this number. -/
theorem spells_number {w : List Char} {n : Numeral.Number} (h : Numeral.read? w = some n) :
    Spells w [ofNumber n] := by
  obtain ⟨hne, hall⟩ := Numeral.isNumeral_of_read? h
  refine spells_word hne (List.any_eq_false.mpr fun c hc => ?_) (word?_of_read? h)
  rw [endsWord_of_isNumeral (List.all_eq_true.mp hall c hc)]
  exact Bool.false_ne_true

/-- A written integer is read as this integer. -/
theorem spells_decimal (n : Int) : Spells (Value.decimal n).toList [.int n] := by
  cases n with
  | ofNat k =>
    have hchars : (Value.decimal (.ofNat k)).toList = Numeral.sign false ++ Nat.toDigits 10 k :=
      Nat.toList_repr
    rw [hchars]
    exact spells_number (Numeral.read?_toDigits false k)
  | negSucc k =>
    have hchars : (Value.decimal (.negSucc k)).toList =
        Numeral.sign true ++ Nat.toDigits 10 (k + 1) := by
      rw [Value.decimal, String.toList_append, Nat.toList_repr]
      rfl
    rw [hchars]
    exact spells_number (Numeral.read?_toDigits true (k + 1))

/-- A written double is read as this double. -/
theorem spells_printDouble (x : Double) : Spells (printDouble x).toList [.double x] := by
  cases x with
  | finite negative size => exact spells_number (Double.read?_text negative size)
  | infinite negative => cases negative <;> exact spells_word (by decide) (by decide) rfl
  | nan => exact spells_word (by decide) (by decide) rfl

/-! ## Texts -/

theorem step_hexDigit {d : Nat} (h : d < 16) (high : Option Nat) (digits value : Nat)
    (read : List Char) :
    (Mode.unit high digits value read).step (Text.hexDigit d) =
      if digits = 3 then some (addUnit high (value * 16 + d) read, [])
      else some (.unit high (digits + 1) (value * 16 + d) read, []) := by
  rw [Mode.step, Text.hexDigit?_hexDigit h]
  rfl

/-- An escaped UTF-16 unit is read as this unit. -/
theorem scan_unitEscape {n : Nat} (h : n < 0x10000) (high : Option Nat) (read rest : List Char) :
    scan (.text high read) (unitEscape n ++ rest) = scan (addUnit high n read) rest := by
  have hbackslash : (Mode.text high read).step '\\' = some (.escape high read, []) := rfl
  have hu : (Mode.escape high read).step 'u' = some (.unit high 0 0 read, []) := rfl
  have hdigits : Text.hexDigits 4 n = [Text.hexDigit (n / 16 / 16 / 16 % 16),
      Text.hexDigit (n / 16 / 16 % 16), Text.hexDigit (n / 16 % 16), Text.hexDigit (n % 16)] := rfl
  have hvalue : (((0 * 16 + n / 16 / 16 / 16 % 16) * 16 + n / 16 / 16 % 16) * 16 +
      n / 16 % 16) * 16 + n % 16 = n := by omega
  have hfirst := step_hexDigit (d := n / 16 / 16 / 16 % 16) (by omega) high 0
  have hsecond := step_hexDigit (d := n / 16 / 16 % 16) (by omega) high 1
  have hthird := step_hexDigit (d := n / 16 % 16) (by omega) high 2
  have hfourth := step_hexDigit (d := n % 16) (by omega) high 3
  rw [unitEscape, hdigits, List.cons_append, List.cons_append, scan_of_step hbackslash,
    scan_of_step hu]
  rw [List.cons_append, scan_of_step (hfirst _ _), List.cons_append, scan_of_step (hsecond _ _),
    List.cons_append, scan_of_step (hthird _ _), List.cons_append, scan_of_step (hfourth _ _),
    hvalue]
  rfl

/-- A character escaped with a letter. -/
theorem scan_escaped {letter : Char} (hu : letter ≠ 'u') (h : escaped? letter = some c)
    (read rest : List Char) :
    scan (.text none read) ('\\' :: letter :: rest) = scan (.text none (c :: read)) rest := by
  have hbackslash : (Mode.text none read).step '\\' = some (.escape none read, []) := rfl
  have hletter : (Mode.escape none read).step letter = some (.text none (c :: read), []) := by
    rw [Mode.step, if_neg hu, h]
    rfl
  rw [scan_of_step hbackslash, scan_of_step hletter]

/-- Each escape is read as the character that it is for. -/
theorem scan_escapeChar (c : Char) (read rest : List Char) :
    scan (.text none read) (escapeChar c ++ rest) = scan (.text none (c :: read)) rest := by
  unfold escapeChar
  split
  · rename_i h
    rcases Bool.or_eq_true_iff.mp h with h | h <;> obtain rfl := of_decide_eq_true h
    · exact scan_escaped (by decide) rfl read rest
    · exact scan_escaped (by decide) rfl read rest
  rename_i hquote
  split
  · subst c; exact scan_escaped (by decide) rfl read rest
  split
  · subst c; exact scan_escaped (by decide) rfl read rest
  split
  · subst c; exact scan_escaped (by decide) rfl read rest
  split
  · rename_i h
    exact scan_escaped (by decide) (by rw [← Char.ofNat_toNat c, h]; rfl) read rest
  split
  · rename_i h
    exact scan_escaped (by decide) (by rw [← Char.ofNat_toNat c, h]; rfl) read rest
  split
  · rename_i h
    have hstep : (Mode.text none read).step c = some (.text none (c :: read), []) := by
      simp only [Bool.or_eq_true, decide_eq_true_eq, not_or] at hquote
      simp only [Bool.and_eq_true, decide_eq_true_eq] at h
      rw [Mode.step, if_neg hquote.1, if_neg hquote.2, if_neg (Nat.not_lt.mpr h.1)]
      rfl
    exact scan_of_step hstep rest
  have hvalid := Text.Utf8.toNat_valid c
  split
  · rename_i h
    rw [scan_unitEscape h, addUnit, if_neg (by omega), if_neg (by omega), Char.ofNat_toNat]
  · simp only
    rw [List.append_assoc, scan_unitEscape (by omega), addUnit, if_pos (by omega),
      scan_unitEscape (by omega), addUnit, if_pos (by omega)]
    have hpair : 0x10000 + (0xD800 + (c.toNat - 0x10000) / 0x400 - 0xD800) * 0x400 +
        (0xDC00 + (c.toNat - 0x10000) % 0x400 - 0xDC00) = c.toNat := by omega
    rw [hpair, Char.ofNat_toNat]

theorem scan_escapeChars (cs : List Char) (read rest : List Char) :
    scan (.text none read) (cs.flatMap escapeChar ++ rest) =
      scan (.text none (cs.reverse ++ read)) rest := by
  induction cs generalizing read with
  | nil => rfl
  | cons c cs ih => rw [List.flatMap_cons, List.append_assoc, scan_escapeChar, ih]; simp

/-- A written text is read as this text. -/
theorem spells_printText (s : String) : Spells (printText s).toList [.text s] := by
  intro rest _
  have hopen : Mode.between.step '"' = some (.text none [], []) := rfl
  have hclose (read : List Char) : (Mode.text none read).step '"' =
      some (.between, [.text (String.ofList read.reverse)]) := rfl
  rw [printText, String.toList_ofList, List.append_assoc, List.cons_append, scan_of_step hopen,
    scan_escapeChars, List.append_nil, List.singleton_append, scan_cons, hclose]
  simp

end TypedMarkup.Json
