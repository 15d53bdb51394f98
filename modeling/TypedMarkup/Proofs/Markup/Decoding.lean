import TypedMarkup.Markup.Source
import TypedMarkup.Proofs.Text.WellFormed

/-!
# Decoding content

Content is the same as text and as the bytes of this text. `decode_content` says what decoding
makes of both: one byte order mark is taken off, and nothing else is lost. Bytes that are not well
formed show as U+FFFD, so that decoding without one can be undone, up to the mark.
-/

namespace TypedMarkup.Markup

open Text.Utf8 (encode replacement encode_repair repair_encode repair_encode_append)

/-- One byte order mark in front is taken off, also when another follows it. -/
theorem dropMark_mark (s : String) : dropMark (String.singleton byteOrderMark ++ s) = s := by
  have hlist : (String.singleton byteOrderMark ++ s).toList = byteOrderMark :: s.toList := by
    rw [String.toList_append, String.toList_singleton, List.singleton_append]
  simp only [dropMark, hlist, if_true, String.ofList_toList]

theorem dropMark_of_head {s : String} (h : s.toList.head? ≠ some byteOrderMark) :
    dropMark s = s := by
  unfold dropMark
  split
  · rename_i c rest hs
    rw [hs, List.head?_cons] at h
    rw [if_neg fun hc => h (congrArg some hc)]
  · rfl

/-- A text is what is left of it, or this behind a byte order mark. -/
theorem dropMark_cases (s : String) :
    s = dropMark s ∨ s = String.singleton byteOrderMark ++ dropMark s := by
  by_cases h : s.toList.head? = some byteOrderMark
  · right
    obtain ⟨rest, hs⟩ := List.head?_eq_some_iff.mp h
    have hmark : s = String.singleton byteOrderMark ++ String.ofList rest := by
      rw [← String.toList_inj, hs, String.toList_append, String.toList_singleton,
        String.toList_ofList, List.singleton_append]
    rw [hmark, dropMark_mark]
  · exact .inl (dropMark_of_head h).symm

/-- The bytes of the byte order mark. -/
theorem encode_mark_append (s : String) :
    encode (String.singleton byteOrderMark ++ s) = [0xEF, 0xBB, 0xBF] ++ encode s := by
  rw [encode, String.toList_append, String.toList_singleton, List.flatMap_append]
  rfl

/-- A byte order mark is no replacement character, so taking it off leaves as many of these. -/
theorem replacement_not_mem_of_dropMark {s : String} (h : replacement ∉ (dropMark s).toList) :
    replacement ∉ s.toList := by
  rcases dropMark_cases s with hs | hs
  · rwa [hs]
  · rw [hs, String.toList_append, String.toList_singleton, List.mem_append, List.mem_singleton]
    exact fun hmem => hmem.elim (by decide) h

/-- Decoding the bytes of a text gives what decoding the text gives: the text without one byte order
mark in front. Before the mark is taken off, the bytes of a text in front of others are read as this
text. Bytes that are decoded without a U+FFFD are the bytes of what they are decoded to, or these
behind the bytes of the mark. -/
theorem decode_content (s : String) (bs : List UInt8) :
    (Content.bytes (encode s)).decode = (Content.text s).decode ∧
      (Content.text (String.singleton byteOrderMark ++ s)).decode = s ∧
      (s.toList.head? ≠ some byteOrderMark → (Content.text s).decode = s) ∧
      (Content.bytes (encode s ++ bs)).rawText = s ++ (Content.bytes bs).rawText ∧
      (replacement ∉ (Content.bytes bs).decode.toList →
        bs = encode (Content.bytes bs).decode ∨
          bs = [0xEF, 0xBB, 0xBF] ++ encode (Content.bytes bs).decode) := by
  refine ⟨?_, dropMark_mark s, dropMark_of_head, repair_encode_append s bs, fun h => ?_⟩
  · simp only [Content.decode, Content.rawText, repair_encode]
  · have hbytes := encode_repair (replacement_not_mem_of_dropMark h)
    rcases dropMark_cases (Content.bytes bs).rawText with hs | hs
    · left
      rw [Content.decode, ← hs]
      exact hbytes.symm
    · right
      rw [Content.decode, ← encode_mark_append, ← hs]
      exact hbytes.symm

/-- The bytes of a mark and of a letter behind it. -/
def markedLetter : List UInt8 :=
  [0xEF, 0xBB, 0xBF, 0xC3, 0xA9]

theorem decode_content_marked :
    "né".toList.head? ≠ some byteOrderMark ∧ (Content.text "né").decode = "né" ∧
      replacement ∉ (Content.bytes markedLetter).decode.toList ∧
      (markedLetter = encode (Content.bytes markedLetter).decode ∨
        markedLetter = [0xEF, 0xBB, 0xBF] ++ encode (Content.bytes markedLetter).decode) := by
  have hhead : "né".toList.head? ≠ some byteOrderMark := by decide +kernel
  have hwhole : replacement ∉ (Content.bytes markedLetter).decode.toList := by decide +kernel
  obtain ⟨-, -, htext, -, hbytes⟩ := decode_content "né" markedLetter
  exact ⟨hhead, htext hhead, hwhole, hbytes hwhole⟩

end TypedMarkup.Markup
