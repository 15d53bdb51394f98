import TypedMarkup.Proofs.Text.Join
import Mathlib.Data.List.TakeWhile

/-!
# The words of a text

`words` splits a text at every run of blanks. What it gives are the longest stretches of the text
that are free of blanks (`mem_words_iff`), and a text that is cut at a blank has the words of its two
parts (`wordChars_append_blank`). So texts that are joined with blanks between have their own words,
one after the other, and no others: no word is lost, made up or run together with its neighbour,
whatever blanks the texts have and wherever some of them are empty (`words_join`).
-/

namespace TypedMarkup.Text

variable {w cs as bs rest : List Char} {b : Char}

/-! ## Words one after the other -/

theorem wordChars_cons_of_isBlank (hb : isBlank b = true) (cs : List Char) :
    wordChars (b :: cs) = wordChars cs := by
  rw [wordChars, if_pos hb]

/-- Where no word ends there is one. -/
theorem wordChars_ne_nil (h : atWordEnd cs = false) : wordChars cs ≠ [] := by
  cases cs with
  | nil => exact absurd h (by decide)
  | cons c cs =>
    have hc : isBlank c = false := h
    rw [wordChars, hc, if_neg Bool.false_ne_true]
    repeat' split
    all_goals exact List.cons_ne_nil _ _

theorem atWordEnd_append_blank (hb : isBlank b = true) (as bs : List Char) :
    atWordEnd (as ++ b :: bs) = atWordEnd as := by
  cases as with
  | nil => exact hb
  | cons a as => rfl

/-- A blank divides the words in front of it from those behind it. -/
theorem wordChars_append_blank (hb : isBlank b = true) (as bs : List Char) :
    wordChars (as ++ b :: bs) = wordChars as ++ wordChars bs := by
  induction as with
  | nil => exact wordChars_cons_of_isBlank hb bs
  | cons a as ih =>
    rw [List.cons_append, wordChars, wordChars, atWordEnd_append_blank hb, ih]
    by_cases ha : isBlank a = true
    · rw [if_pos ha, if_pos ha]
    · rw [if_neg ha, if_neg ha]
      cases hend : atWordEnd as with
      | true => rfl
      | false =>
        -- the word that begins here goes on in `as`
        obtain ⟨v, vs, hv⟩ := List.exists_cons_of_ne_nil (wordChars_ne_nil hend)
        rw [hv]
        rfl

/-- The characters up to the end of a word are the first word. -/
theorem wordChars_append_of_atWordEnd (hne : w ≠ []) (hw : ∀ c ∈ w, isBlank c = false)
    (hend : atWordEnd rest = true) : wordChars (w ++ rest) = w :: wordChars rest := by
  induction w with
  | nil => exact absurd rfl hne
  | cons c w ih =>
    obtain ⟨hc, hw⟩ := List.forall_mem_cons.mp hw
    rw [List.cons_append, wordChars, hc, if_neg Bool.false_ne_true]
    cases w with
    | nil => rw [List.nil_append, if_pos hend]
    | cons d w =>
      have hd : atWordEnd (d :: w ++ rest) = false := hw d List.mem_cons_self
      rw [hd, if_neg Bool.false_ne_true, ih (List.cons_ne_nil d w) hw]

/-! ## Longest stretches free of blanks -/

/-- The characters `w` are a longest stretch of `cs` that is free of blanks: at either side of it
stands a blank, or nothing. -/
structure IsStretch (w cs : List Char) : Prop where
  nonempty : w ≠ []
  free : ∀ c ∈ w, isBlank c = false
  bounded : ∃ before after, cs = before ++ w ++ after ∧
    (∀ b, before.getLast? = some b → isBlank b = true) ∧
    ∀ b, after.head? = some b → isBlank b = true

theorem atWordEnd_iff : atWordEnd cs = true ↔ ∀ b, cs.head? = some b → isBlank b = true := by
  cases cs <;> simp [atWordEnd]

/-- A stretch of what stands behind a blank is one of the whole. -/
theorem IsStretch.behind (hb : isBlank b = true) (as : List Char) (h : IsStretch w bs) :
    IsStretch w (as ++ b :: bs) := by
  obtain ⟨before, after, rfl, hbefore, hafter⟩ := h.bounded
  refine ⟨h.nonempty, h.free, as ++ b :: before, after, by simp, fun c hc => ?_, hafter⟩
  rw [List.getLast?_append, List.getLast?_cons, Option.some_or, Option.some.injEq] at hc
  cases hlast : before.getLast? with
  | none => rwa [← hc, hlast]
  | some d => rw [← hc, hlast]; exact hbefore d hlast

/-- By induction on the number of characters: behind the first word and the blank after it there are
fewer. -/
theorem isStretch_of_mem_wordChars (cs : List Char) (h : w ∈ wordChars cs) : IsStretch w cs := by
  cases cs with
  | nil => exact absurd h List.not_mem_nil
  | cons c cs =>
    by_cases hc : isBlank c = true
    · rw [wordChars_cons_of_isBlank hc] at h
      exact (isStretch_of_mem_wordChars cs h).behind hc []
    · let first := (c :: cs).takeWhile fun d => !isBlank d
      let others := (c :: cs).dropWhile fun d => !isBlank d
      have hcut : c :: cs = first ++ others := List.takeWhile_append_dropWhile.symm
      have hne : first ≠ [] := by simp [first, hc]
      have hfree : ∀ d ∈ first, isBlank d = false := fun d hd => by
        simpa using List.mem_takeWhile_imp hd
      have hend : ∀ b, others.head? = some b → isBlank b = true := fun b hb => by
        have := List.head?_dropWhile_not (fun d => !isBlank d) (c :: cs)
        rw [hb] at this
        simpa using this
      rw [hcut, wordChars_append_of_atWordEnd hne hfree (atWordEnd_iff.mpr hend),
        List.mem_cons] at h
      rcases h with rfl | h
      · rw [hcut]
        exact ⟨hne, hfree, [], others, rfl, by simp, hend⟩
      · cases hothers : others with
        | nil => simp [hothers, wordChars] at h
        | cons b bs =>
          have hb : isBlank b = true := hend b (by rw [hothers]; rfl)
          have hshort : bs.length < (c :: cs).length := by
            rw [hcut, hothers, List.length_append, List.length_cons]
            omega
          rw [hothers, wordChars_cons_of_isBlank hb] at h
          rw [hcut, hothers]
          exact (isStretch_of_mem_wordChars bs h).behind hb first
termination_by cs.length

theorem mem_wordChars_of_isStretch (h : IsStretch w cs) : w ∈ wordChars cs := by
  obtain ⟨before, after, rfl, hbefore, hafter⟩ := h.bounded
  have hfirst : wordChars (w ++ after) = w :: wordChars after :=
    wordChars_append_of_atWordEnd h.nonempty h.free (atWordEnd_iff.mpr hafter)
  rw [List.append_assoc]
  rcases before.eq_nil_or_concat with rfl | ⟨init, b, rfl⟩
  · rw [List.nil_append, hfirst]
    exact List.mem_cons_self
  · have hb : isBlank b = true := hbefore b (by simp)
    rw [List.concat_eq_append, List.append_assoc, List.singleton_append,
      wordChars_append_blank hb, hfirst]
    exact List.mem_append_right _ List.mem_cons_self

/-- The words of a text are its longest stretches free of blanks. -/
theorem mem_words_iff {word s : String} : word ∈ words s ↔ IsStretch word.toList s.toList := by
  rw [words, List.mem_map]
  constructor
  · rintro ⟨w, hw, rfl⟩
    rw [String.toList_ofList]
    exact isStretch_of_mem_wordChars _ hw
  · intro h
    exact ⟨word.toList, mem_wordChars_of_isStretch h, String.ofList_toList⟩

/-! ## Joined texts -/

theorem isBlank_space : isBlank ' ' = true := by
  decide

/-- Joined texts have the words of each, one after the other. -/
theorem words_join (texts : List String) : words (join " " texts) = texts.flatMap words := by
  induction texts with
  | nil => rfl
  | cons s rest ih =>
    cases rest with
    | nil => simp [join]
    | cons t rest =>
      have hspace : " ".toList = [' '] := rfl
      rw [List.flatMap_cons, ← ih, join]
      simp only [words, String.toList_append, hspace, List.append_assoc, List.singleton_append,
        wordChars_append_blank isBlank_space, List.map_append]

end TypedMarkup.Text
