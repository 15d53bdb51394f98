import TypedMarkup.Json.Reader
import TypedMarkup.Proofs.Json.Token
import TypedMarkup.Proofs.Value
import Mathlib.Data.List.Forall2

/-!
# JSON is read back

A value whose tables have distinct names is read from its written form (`parse?_print`). The two
levels of reading are dealt with one after the other: `tokens` gives the tokens of a value, which
are what its written form is read as (`spells_printAt`), and reading them finishes with the value
(`read_tokens`).

Whatever is read has distinct names (`isProper_of_parse?`), because a table is put together name by
name.
-/

namespace TypedMarkup.Json

/-! ## The tokens of a value -/

/-- Runs of tokens with a comma between neighbours. -/
def separated : List (List Token) → List Token
  | [] => []
  | [ts] => ts
  | ts :: us :: rest => ts ++ .comma :: separated (us :: rest)

mutual

/-- The tokens that write a value. -/
def tokens : Value → List Token
  | .null => [.null]
  | .bool b => [.bool b]
  | .int n => [.int n]
  | .double x => [.double x]
  | .text s => [.text s]
  | .list items => .beginList :: (separated (itemTokens items) ++ [.endList])
  | .table entries => .beginTable :: (separated (entryTokens entries) ++ [.endTable])

/-- The tokens that write each item of a list. -/
def itemTokens : List Value → List (List Token)
  | [] => []
  | v :: vs => tokens v :: itemTokens vs

/-- The tokens that write each entry of a table. -/
def entryTokens : List (String × Value) → List (List Token)
  | [] => []
  | (name, v) :: rest => (.text name :: .colon :: tokens v) :: entryTokens rest

end

/-! ## Written values -/

theorem toList_lineBreak (level : Nat) :
    (lineBreak level).toList = '\n' :: List.replicate (4 * level) ' ' := by
  rw [lineBreak, String.toList_append]
  exact congrArg ('\n' :: ·) String.toList_ofList

theorem wordEnds_lineBreak (level : Nat) (cs : List Char) :
    WordEnds ((lineBreak level).toList ++ cs) := by
  rw [toList_lineBreak]
  rfl

/-- A line break is read as nothing. -/
theorem Spells.lineBreak {cs : List Char} {ts : List Token} (h : Spells cs ts) (level : Nat) :
    Spells ((lineBreak level).toList ++ cs) ts := by
  refine h.blanks fun b hb => ?_
  rw [toList_lineBreak] at hb
  rcases List.mem_cons.mp hb with rfl | hb
  · rfl
  · rw [List.eq_of_mem_replicate hb]
    rfl

/-- Pieces with commas between them are read as their tokens with commas between them. -/
theorem spells_join {pieces : List String} {tss : List (List Token)}
    (h : List.Forall₂ (fun p ts => Spells p.toList ts) pieces tss) :
    Spells (Text.join "," pieces).toList (separated tss) := by
  induction h with
  | nil => exact spells_nil
  | cons hp hrest ih =>
    cases hrest with
    | nil => exact hp
    | cons hq hrest =>
      rw [Text.join, String.toList_append, String.toList_append, List.append_assoc]
      exact hp.append (ih.mark (c := ',') rfl) rfl

mutual

/-- A written value is read as its tokens. -/
theorem spells_printAt (level : Nat) : (v : Value) → Spells (printAt level v).toList (tokens v)
  | .null => by
    rw [printAt]
    exact spells_word (by decide) (by decide) rfl
  | .bool b => by
    rw [printAt]
    cases b <;> exact spells_word (by decide) (by decide) rfl
  | .int n => by
    rw [printAt]
    exact spells_decimal n
  | .double x => by
    rw [printAt]
    exact spells_printDouble x
  | .text s => by
    rw [printAt]
    exact spells_printText s
  | .list [] => by
    rw [printAt]
    exact (spells_nil.mark (c := ']') rfl).mark (c := '[') rfl
  | .list (v :: vs) => by
    have hitems := spells_join (spells_printItems (level + 1) (v :: vs))
    have hend := (spells_nil.mark (c := ']') rfl).lineBreak level
    rw [printAt, String.toList_append, String.toList_append, String.toList_append,
      List.append_assoc, List.append_assoc]
    exact (hitems.append hend (wordEnds_lineBreak level _)).mark (c := '[') rfl
  | .table [] => by
    rw [printAt]
    exact (spells_nil.mark (c := '\x7d') rfl).mark (c := '\x7b') rfl
  | .table (e :: es) => by
    have hentries := spells_join (spells_printEntries (level + 1) (e :: es))
    have hend := (spells_nil.mark (c := '\x7d') rfl).lineBreak level
    rw [printAt, String.toList_append, String.toList_append, String.toList_append,
      List.append_assoc, List.append_assoc]
    exact (hentries.append hend (wordEnds_lineBreak level _)).mark (c := '\x7b') rfl

theorem spells_printItems (level : Nat) : (vs : List Value) →
    List.Forall₂ (fun p ts => Spells p.toList ts) (printItems level vs) (itemTokens vs)
  | [] => .nil
  | v :: vs => by
    refine .cons ?_ (spells_printItems level vs)
    rw [String.toList_append]
    exact (spells_printAt level v).lineBreak level

theorem spells_printEntries (level : Nat) : (es : List (String × Value)) →
    List.Forall₂ (fun p ts => Spells p.toList ts) (printEntries level es) (entryTokens es)
  | [] => .nil
  | (name, v) :: rest => by
    refine .cons ?_ (spells_printEntries level rest)
    rw [String.toList_append, String.toList_append, String.toList_append, List.append_assoc,
      List.append_assoc]
    have hspace : ∀ b ∈ [' '], isSpace b = true := fun b hb => by
      rw [List.mem_singleton.mp hb]
      rfl
    have hvalue := ((spells_printAt level v).blanks hspace).mark (c := ':') rfl
    exact ((spells_printText name).append hvalue rfl).lineBreak level

end

theorem tokens?_print (v : Value) : tokens? (print v) = some (tokens v) := by
  have h := spells_printAt 0 v [] trivial
  rw [List.append_nil] at h
  rw [tokens?, print, h, scan, Option.map_some, List.append_nil]

/-! ## Reading tokens -/

/-- Whether a value may come next. -/
def Expects.admitsValue : Expects → Bool
  | .value | .valueOrEnd => true
  | _ => false

/-- Whether a name may come next. -/
def Expects.admitsName : Expects → Bool
  | .name | .nameOrEnd => true
  | _ => false

theorem read_cons {s s' : State} {t : Token} (h : s.step t = some s') (ts : List Token) :
    (t :: ts).foldlM State.step s = ts.foldlM State.step s' := by
  rw [List.foldlM_cons, h]
  rfl

theorem read_append {s s' : State} {ts : List Token} (h : ts.foldlM State.step s = some s')
    (us : List Token) : (ts ++ us).foldlM State.step s = us.foldlM State.step s' := by
  rw [List.foldlM_append, h]
  rfl

theorem read_last (s : State) (t : Token) : [t].foldlM State.step s = s.step t := by
  cases h : s.step t <;> simp [h]

theorem separated_cons (ts : List Token) {tss : List (List Token)} (h : tss ≠ []) :
    separated (ts :: tss) = ts ++ .comma :: separated tss := by
  cases tss with
  | nil => exact absurd rfl h
  | cons us tss => rfl

/-- Where a value may come next, any token but the end of a list is read as the start of one. -/
theorem step_of_admitsValue {s : State} (hs : s.expects.admitsValue = true) {t : Token}
    (ht : t ≠ .endList) : s.step t = State.value s.frames t := by
  unfold State.step
  cases he : s.expects <;> simp_all [Expects.admitsValue]

theorem step_name {s : State} (hs : s.expects.admitsName = true) {entries : Entries Value}
    {frames : List Frame} (hf : s.frames = .table entries :: frames) (name : String) :
    s.step (.text name) = some ⟨.entry entries name :: frames, .colon, none⟩ := by
  unfold State.step
  cases he : s.expects <;> simp_all [Expects.admitsName]

mutual

/-- Reading the tokens of a value finishes with this value. -/
theorem read_tokens : (v : Value) → v.IsProper → (s : State) → s.expects.admitsValue = true →
    (tokens v).foldlM State.step s = State.finish s.frames v
  | .null, _, s, hs | .bool _, _, s, hs | .int _, _, s, hs | .double _, _, s, hs
  | .text _, _, s, hs => by
    rw [tokens, read_last, step_of_admitsValue hs (by simp)]
    rfl
  | .list items, h, s, hs => by
    have hbegin : s.step .beginList = some ⟨.list [] :: s.frames, .valueOrEnd, none⟩ :=
      step_of_admitsValue hs (by simp)
    rw [tokens, read_cons hbegin]
    cases items with
    | nil => exact read_last _ .endList
    | cons v vs =>
      have hitems := read_itemTokens (v :: vs) h ⟨.list [] :: s.frames, .valueOrEnd, none⟩ rfl rfl
        (List.cons_ne_nil v vs)
      have hend : State.step ⟨.list ((v :: vs).reverse ++ []) :: s.frames, .commaOrEnd, none⟩
          .endList = State.finish s.frames (.list (v :: vs)) := by
        rw [List.append_nil]
        exact congrArg (fun vs => State.finish s.frames (.list vs)) (List.reverse_reverse _)
      rw [read_append hitems, read_last, hend]
  | .table entries, h, s, hs => by
    have hbegin : s.step .beginTable = some ⟨.table [] :: s.frames, .nameOrEnd, none⟩ :=
      step_of_admitsValue hs (by simp)
    rw [tokens, read_cons hbegin]
    cases entries with
    | nil => exact read_last _ .endTable
    | cons e es =>
      have hentries := read_entryTokens (e :: es) h.2 ⟨.table [] :: s.frames, .nameOrEnd, none⟩
        rfl rfl h.1 (List.cons_ne_nil e es)
      rw [read_append hentries, read_last]
      rfl

/-- Reading the tokens of items adds these items to the list that is open. -/
theorem read_itemTokens : (vs : List Value) → Value.AllProper vs → (s : State) →
    s.expects.admitsValue = true → {items : List Value} → {frames : List Frame} →
      s.frames = .list items :: frames → vs ≠ [] →
        (separated (itemTokens vs)).foldlM State.step s =
          some ⟨.list (vs.reverse ++ items) :: frames, .commaOrEnd, none⟩
  | [], _, _, _, _, _, _, hne => absurd rfl hne
  | v :: vs, h, s, hs, items, frames, hf, _ => by
    have hv : (tokens v).foldlM State.step s =
        some ⟨.list (v :: items) :: frames, .commaOrEnd, none⟩ := by
      rw [read_tokens v h.1 s hs, hf]
      rfl
    cases vs with
    | nil => exact hv
    | cons w vs =>
      have hcomma : State.step ⟨.list (v :: items) :: frames, .commaOrEnd, none⟩ .comma =
          some ⟨.list (v :: items) :: frames, .value, none⟩ := rfl
      have hrest := read_itemTokens (w :: vs) h.2 ⟨.list (v :: items) :: frames, .value, none⟩
        rfl rfl (List.cons_ne_nil w vs)
      rw [itemTokens, separated_cons _ (by simp [itemTokens]), read_append hv, read_cons hcomma,
        hrest]
      simp

/-- Reading the tokens of entries adds these entries to the table that is open. -/
theorem read_entryTokens : (es : List (String × Value)) → Value.EntriesProper es → (s : State) →
    s.expects.admitsName = true → {entries : Entries Value} → {frames : List Frame} →
      s.frames = .table entries :: frames → (Entries.names (entries ++ es)).Nodup → es ≠ [] →
        (separated (entryTokens es)).foldlM State.step s =
          some ⟨.table (entries ++ es) :: frames, .commaOrEnd, none⟩
  | [], _, _, _, _, _, _, _, hne => absurd rfl hne
  | (name, v) :: es, h, s, hs, entries, frames, hf, hn, _ => by
    -- the name is new, so its entry comes last
    have hnew : name ∉ entries.names := by
      rw [Entries.names, List.map_append] at hn
      exact fun hm => (List.nodup_append.mp hn).2.2 name hm name List.mem_cons_self rfl
    have he : (.text name :: .colon :: tokens v : List Token).foldlM State.step s =
        some ⟨.table (entries ++ [(name, v)]) :: frames, .commaOrEnd, none⟩ := by
      have hcolon : State.step ⟨.entry entries name :: frames, .colon, none⟩ .colon =
          some ⟨.entry entries name :: frames, .value, none⟩ := rfl
      rw [read_cons (step_name hs hf name), read_cons hcolon, read_tokens v h.1 _ rfl,
        State.finish, Entries.put_of_not_mem hnew]
    cases es with
    | nil => exact he
    | cons e es =>
      have hcomma : State.step ⟨.table (entries ++ [(name, v)]) :: frames, .commaOrEnd, none⟩
          .comma = some ⟨.table (entries ++ [(name, v)]) :: frames, .name, none⟩ := rfl
      have hrest := read_entryTokens (e :: es) h.2
        ⟨.table (entries ++ [(name, v)]) :: frames, .name, none⟩ rfl rfl
        (by rwa [List.append_assoc]) (List.cons_ne_nil e es)
      rw [entryTokens, separated_cons _ (by simp [entryTokens]), read_append he, read_cons hcomma,
        hrest, List.append_assoc]
      rfl

end

/-- A value is read back from its written form. -/
theorem parse?_print {v : Value} (h : v.IsProper) : parse? (print v) = some v := by
  have hread := read_tokens v h .initial rfl
  rw [parse?, tokens?_print]
  simp only [Option.bind_eq_bind, Option.bind_some, hread]
  rfl

/-! ## Distinct names -/

/-- What an open list or table has so far is proper. -/
def Frame.IsProper : Frame → Prop
  | .list items => Value.AllProper items
  | .table entries | .entry entries _ => (Value.table entries).IsProper

/-- All that has been read is proper. -/
structure State.IsProper (s : State) : Prop where
  frames : ∀ f ∈ s.frames, f.IsProper
  result : ∀ v, s.result = some v → v.IsProper

variable {frames : List Frame} {v : Value} {s s' : State} {t : Token}

theorem isProper_frames (h : ∀ f ∈ frames, f.IsProper) (expects : Expects) :
    State.IsProper ⟨frames, expects, none⟩ :=
  ⟨h, fun _ h => absurd h (by simp)⟩

theorem isProper_cons {f : Frame} (hf : f.IsProper) (h : ∀ f ∈ frames, f.IsProper)
    (expects : Expects) : State.IsProper ⟨f :: frames, expects, none⟩ :=
  isProper_frames (List.forall_mem_cons.mpr ⟨hf, h⟩) expects

theorem isProper_finish (h : ∀ f ∈ frames, f.IsProper) (hv : v.IsProper)
    (hs : State.finish frames v = some s') : s'.IsProper := by
  cases frames with
  | nil =>
    rw [← Option.some.inj hs]
    exact ⟨h, fun w hw => Option.some.inj hw ▸ hv⟩
  | cons f rest =>
    obtain ⟨hf, hrest⟩ := List.forall_mem_cons.mp h
    cases f with
    | list items =>
      rw [← Option.some.inj hs]
      exact isProper_cons (f := .list (v :: items)) ⟨hv, hf⟩ hrest _
    | entry entries name =>
      rw [← Option.some.inj hs]
      exact isProper_cons (f := .table (entries.put name v)) (Value.isProper_put hf hv) hrest _
    | table entries => exact absurd hs (by simp [State.finish])

theorem isProper_value (h : ∀ f ∈ frames, f.IsProper) (hs : State.value frames t = some s') :
    s'.IsProper := by
  cases t with
  | null => exact isProper_finish (v := .null) h trivial hs
  | bool b => exact isProper_finish (v := .bool b) h trivial hs
  | int n => exact isProper_finish (v := .int n) h trivial hs
  | double x => exact isProper_finish (v := .double x) h trivial hs
  | text s => exact isProper_finish (v := .text s) h trivial hs
  | beginList =>
    rw [← Option.some.inj hs]
    exact isProper_cons (f := .list []) trivial h _
  | beginTable =>
    rw [← Option.some.inj hs]
    exact isProper_cons (f := .table []) ⟨List.nodup_nil, trivial⟩ h _
  | _ => exact absurd hs (by simp [State.value])

theorem isProper_close (h : ∀ f ∈ frames, f.IsProper) (hs : State.close frames t = some s') :
    s'.IsProper := by
  unfold State.close at hs
  split at hs
  · obtain ⟨hf, hrest⟩ := List.forall_mem_cons.mp h
    refine isProper_finish hrest ?_ hs
    exact Value.allProper_iff.mpr fun v hv =>
      Value.allProper_iff.mp hf v (List.mem_reverse.mp hv)
  · obtain ⟨hf, hrest⟩ := List.forall_mem_cons.mp h
    exact isProper_finish (v := .table _) hrest hf hs
  · exact absurd hs (by simp)

/-- Reading a token keeps all that has been read proper. -/
theorem isProper_step (h : s.IsProper) (hs : s.step t = some s') : s'.IsProper := by
  have hframes := h.frames
  unfold State.step at hs
  split at hs
  case h_1 | h_3 => exact isProper_value hframes hs
  case h_2 | h_4 | h_9 => exact isProper_close hframes hs
  case h_5 | h_6 =>
    -- a name begins an entry of the table that is open
    split at hs
    · rename_i hf
      rw [hf] at hframes
      obtain ⟨hf, hrest⟩ := List.forall_mem_cons.mp hframes
      rw [← Option.some.inj hs]
      exact isProper_cons (f := .entry _ _) hf hrest _
    · exact absurd hs (by simp)
  case h_7 => rw [← Option.some.inj hs]; exact isProper_frames hframes _
  case h_8 =>
    split at hs
    · rw [← Option.some.inj hs]; exact isProper_frames hframes _
    · rw [← Option.some.inj hs]; exact isProper_frames hframes _
    · exact absurd hs (by simp)
  case h_10 => exact absurd hs (by simp)

/-- What is read from a text is proper. -/
theorem isProper_of_parse? {text : String} (h : parse? text = some v) : v.IsProper := by
  have run {ts : List Token} {s s' : State} (hp : s.IsProper)
      (hs : ts.foldlM State.step s = some s') : s'.IsProper := by
    induction ts generalizing s with
    | nil => exact Option.some.inj hs ▸ hp
    | cons t ts ih =>
      rw [List.foldlM_cons] at hs
      obtain ⟨s₁, h₁, hs⟩ := Option.bind_eq_some_iff.mp hs
      exact ih (isProper_step hp h₁) hs
  obtain ⟨ts, -, h⟩ := Option.bind_eq_some_iff.mp h
  obtain ⟨last, hlast, h⟩ := Option.bind_eq_some_iff.mp h
  exact (run ⟨by simp [State.initial], by simp [State.initial]⟩ hlast).result v h

end TypedMarkup.Json
