import TypedMarkup.CommandLine.Run
import TypedMarkup.Proofs.Outline
import Mathlib.Algebra.GroupWithZero.Nat

/-!
# Line breaks in outlines

What the command writes ends a line after each entry. Text and comments stand quoted in their
entries, so that line breaks in them do not come through (`Text.newline_not_mem_quote`), and the
entries of raw data only tell a length. But tags, and the names and values of attributes, stand
there as they are. `lineBreaks_written_outline` counts: there is a line break for each node, and one
more for each line break in a tag or an attribute. So the lines are one for each node just when no
tag and no attribute holds a line break (`Tree.sum_lineBreaks_eq_zero`).
-/

namespace TypedMarkup

/-! ## Counting -/

/-- The number of line breaks in a text. -/
def Text.lineBreaks (s : String) : Nat :=
  s.toList.count '\n'

namespace Text

@[simp] theorem lineBreaks_append (s t : String) :
    lineBreaks (s ++ t) = lineBreaks s + lineBreaks t := by
  rw [lineBreaks, String.toList_append, List.count_append, lineBreaks, lineBreaks]

theorem lineBreaks_eq_zero {s : String} : lineBreaks s = 0 ↔ '\n' ∉ s.toList :=
  List.count_eq_zero

@[simp] theorem lineBreaks_quote (s : String) : lineBreaks (quote s) = 0 :=
  lineBreaks_eq_zero.mpr (newline_not_mem_quote s)

@[simp] theorem lineBreaks_repr (n : Nat) : lineBreaks (Nat.repr n) = 0 := by
  refine lineBreaks_eq_zero.mpr fun h => ?_
  rw [Nat.toList_repr] at h
  have digit := Nat.isDigit_of_mem_toDigits (by decide) (by decide) h
  exact absurd digit (by decide)

/-- Texts that are put one behind the other keep their line breaks. -/
theorem lineBreaks_join (ps : List String) :
    lineBreaks (join "" ps) = (ps.map lineBreaks).sum := by
  fun_induction join "" ps with
  | case1 => rfl
  | case2 s => simp
  | case3 s t rest ih => rw [lineBreaks_append, lineBreaks_append, ih]; rfl

end Text

/-- The number of line breaks in the tag and in the attributes of the root. -/
def Tree.lineBreaks : Tree → Nat
  | element _ tag attributes _ => Text.lineBreaks tag +
    (attributes.map fun a => Text.lineBreaks a.1 + Text.lineBreaks a.2).sum
  | text _ | comment _ | rawData _ => 0

/-- No tag, no name and no value of an attribute holds a line break, anywhere in the trees. -/
def Tree.Unbroken (ts : List Tree) : Prop :=
  ∀ type tag attributes cs, Tree.element type tag attributes cs ∈ Tree.preorders ts →
    '\n' ∉ tag.toList ∧ ∀ a ∈ attributes, '\n' ∉ a.1.toList ∧ '\n' ∉ a.2.toList

theorem Tree.sum_lineBreaks_eq_zero {ts : List Tree} :
    ((preorders ts).map lineBreaks).sum = 0 ↔ Unbroken ts := by
  have helement (type : ElementType) (tag : String) (attributes : List (String × String))
      (cs : List Tree) : (element type tag attributes cs).lineBreaks = 0 ↔
        '\n' ∉ tag.toList ∧ ∀ a ∈ attributes, '\n' ∉ a.1.toList ∧ '\n' ∉ a.2.toList := by
    simp only [lineBreaks, Nat.add_eq_zero_iff, List.sum_eq_zero_iff_forall_eq_nat,
      List.forall_mem_map, Text.lineBreaks_eq_zero]
  rw [List.sum_eq_zero_iff_forall_eq_nat, List.forall_mem_map]
  refine ⟨fun h type tag attributes cs hmem => (helement ..).mp (h _ hmem), fun h t hmem => ?_⟩
  cases t with
  | element type tag attributes cs => exact (helement ..).mpr (h _ _ _ _ hmem)
  | text | comment | rawData => rfl

namespace Outline

open TypedMarkup.Tree

/-! ## Entries -/

theorem lineBreaks_pad (level : Int) : Text.lineBreaks (pad level) = 0 := by
  rw [Text.lineBreaks_eq_zero, pad, String.toList_ofList]
  exact fun h => absurd (List.eq_of_mem_replicate h) (by decide)

theorem lineBreaks_kindName (k : Option NodeKind) : Text.lineBreaks (kindName k) = 0 := by
  cases k with
  | none => rfl
  | some k => cases k <;> rfl

/-- A label has the line breaks of the tag and of the attributes, and no others. -/
theorem lineBreaks_label (t : Tree) : Text.lineBreaks (label t) = t.lineBreaks := by
  cases t with
  | element type tag attributes cs =>
    have hattribute (a : String × String) : Text.lineBreaks (attributeText a) =
        Text.lineBreaks a.1 + Text.lineBreaks a.2 := by
      simp only [attributeText, Text.lineBreaks_append, show Text.lineBreaks " " = 0 from rfl,
        show Text.lineBreaks "=\"" = 0 from rfl, show Text.lineBreaks "\"" = 0 from rfl,
        Nat.zero_add, Nat.add_zero]
    simp only [label, Text.lineBreaks_append, lineBreaks_kindName, Text.lineBreaks_join,
      List.map_map, Function.comp_def, hattribute, show Text.lineBreaks " <" = 0 from rfl,
      show Text.lineBreaks ">" = 0 from rfl, Nat.zero_add, Nat.add_zero, Tree.lineBreaks]
  | text data =>
    rw [label, Text.lineBreaks_append, Text.lineBreaks_quote]
    rfl
  | comment data =>
    rw [label, Text.lineBreaks_append, Text.lineBreaks_quote]
    rfl
  | rawData data =>
    rw [label, Text.lineBreaks_append, Text.lineBreaks_append, Text.lineBreaks_repr]
    rfl

/-- One by one, the entries have the line breaks of the nodes. -/
theorem map_lineBreaks_forest (level : Int) (ts : List Tree) :
    (forest level ts).map Text.lineBreaks = (preorders ts).map Tree.lineBreaks := by
  have hentry (l : Position × Tree) :
      Text.lineBreaks (pad (levelAt level l.1) ++ label l.2) = l.2.lineBreaks := by
    rw [Text.lineBreaks_append, lineBreaks_pad, lineBreaks_label, Nat.zero_add]
  rw [forest_eq_map ts level 0, ← map_snd_locatedFrom 0, List.map_map, List.map_map]
  exact List.map_congr_left fun l _ => hentry l

/-! ## What the command writes -/

/-- Each entry ends its line. -/
theorem lineBreaks_written (entries : List String) :
    Text.lineBreaks (CommandLine.written entries) =
      entries.length + (entries.map Text.lineBreaks).sum := by
  have hline (s : String) : Text.lineBreaks (s ++ "\n") = Text.lineBreaks s + 1 := by
    rw [Text.lineBreaks_append]
    rfl
  rw [CommandLine.written, Text.lineBreaks_join, List.map_map]
  induction entries with
  | nil => rfl
  | cons entry entries ih =>
    simp only [List.map_cons, List.sum_cons, Function.comp_apply, hline, ih, List.length_cons]
    omega

theorem lineBreaks_written_forest (level : Int) (ts : List Tree) :
    Text.lineBreaks (CommandLine.written (forest level ts)) =
      (preorders ts).length + ((preorders ts).map Tree.lineBreaks).sum := by
  have hlength := congrArg List.length (map_lineBreaks_forest level ts)
  rw [List.length_map, List.length_map] at hlength
  rw [lineBreaks_written, map_lineBreaks_forest, hlength]

/-- A run that ends well has written the outline of what it has converted, from level zero on. -/
theorem output_of_run {argv : List String} {input : String} {files : Files}
    {backend : Markup.Backend} {elapsed : Int}
    (h : (CommandLine.run argv input files backend elapsed).ending = .code 0) :
    ∃ arguments request content ts entries, CommandLine.parse argv = .ok arguments ∧
      CommandLine.markup arguments input (Logging.setUp request [] files).files = .ok content ∧
      (CommandLine.convert arguments (PageConverter.make (Config.make [] arguments.config [] files).1
        Registry.empty backend) content elapsed).result = .ok ts ∧
      write ts 0 = .ok entries ∧
      (CommandLine.run argv input files backend elapsed).output = CommandLine.written entries := by
  unfold CommandLine.run at h ⊢
  cases hparse : CommandLine.parse argv with
  | error e => simp [hparse, CommandLine.Result.early] at h
  | ok arguments =>
    rcases hconfig : Config.make [] arguments.config [] files with ⟨config, notices⟩
    simp only [hparse, hconfig] at h ⊢
    -- the logger is set up, the markup is read, and what is converted is written
    split at h
    · cases h
    split at h
    · cases h
    rename_i content hcontent
    split at h
    · cases h
    rename_i entries hwrite
    cases hresult : (CommandLine.convert arguments
        (PageConverter.make config Registry.empty backend) content elapsed).result with
    | error fault => simp [hresult, Except.bind] at hwrite
    | ok ts =>
      rw [hresult] at hwrite
      refine ⟨arguments, _, content, ts, entries, rfl, hcontent, ?_, hwrite, rfl⟩
      rw [hconfig, hresult]

/-! ## Main statement -/

/-- The outline of a forest of nodes of the nine kinds has an entry for each node, with the line
breaks in its tag and its attributes. What is written of it has all of these, and one line break for
each node; its lines are one for each node, and no entry is broken, just when no tag and no
attribute is. So it is with what every run that ends well has converted. -/
theorem lineBreaks_written_outline {ts : List Tree} (hts : areConcrete ts = true) (level : Int) :
    (∃ entries, write ts level = .ok entries ∧
      entries.map Text.lineBreaks = (preorders ts).map Tree.lineBreaks ∧
      Text.lineBreaks (CommandLine.written entries) =
        (preorders ts).length + ((preorders ts).map Tree.lineBreaks).sum ∧
      (Text.lineBreaks (CommandLine.written entries) = (preorders ts).length ↔ Unbroken ts) ∧
      ((∀ entry ∈ entries, '\n' ∉ entry.toList) ↔ Unbroken ts)) ∧
    ∀ argv input files backend elapsed,
      (CommandLine.run argv input files backend elapsed).ending = .code 0 →
      ∃ arguments request content us, CommandLine.parse argv = .ok arguments ∧
        CommandLine.markup arguments input (Logging.setUp request [] files).files = .ok content ∧
        (CommandLine.convert arguments (PageConverter.make (Config.make [] arguments.config [] files).1
          Registry.empty backend) content elapsed).result = .ok us ∧
        areConcrete us = true ∧
        Text.lineBreaks (CommandLine.run argv input files backend elapsed).output =
          (preorders us).length + ((preorders us).map Tree.lineBreaks).sum ∧
        (Text.lineBreaks (CommandLine.run argv input files backend elapsed).output =
          (preorders us).length ↔ Unbroken us) := by
  have hone (ts : List Tree) (level : Int) :
      Text.lineBreaks (CommandLine.written (forest level ts)) = (preorders ts).length ↔
        Unbroken ts := by
    rw [lineBreaks_written_forest, Nat.add_eq_left, sum_lineBreaks_eq_zero]
  refine ⟨?_, fun argv input files backend elapsed h => ?_⟩
  · have hlabels := map_lineBreaks_forest level ts
    refine ⟨forest level ts, by rw [write, if_pos hts], hlabels, lineBreaks_written_forest level ts,
      hone ts level, ?_⟩
    rw [← sum_lineBreaks_eq_zero, ← hlabels, List.sum_eq_zero_iff_forall_eq_nat,
      List.forall_mem_map]
    simp only [Text.lineBreaks_eq_zero]
  · obtain ⟨arguments, request, content, us, entries, hparse, hcontent, hconvert, hwrite,
      houtput⟩ := output_of_run h
    rw [write] at hwrite
    split at hwrite
    · rename_i hus
      obtain rfl := Except.ok.inj hwrite
      rw [houtput]
      exact ⟨arguments, request, content, us, hparse, hcontent, hconvert, hus,
        lineBreaks_written_forest 0 us, hone us 0⟩
    · cases hwrite

/-- A paragraph whose title is over two lines, with a text over two lines in it. -/
def broken : List Tree :=
  [.element (.standard .blockContainer) "p" [("title", "a\nb")] [.text "x\ny"]]

/-- The same as markup. -/
def brokenMarkup : String :=
  "<p title=\"a\nb\">x\ny</p>"

/-- A parser that always reads what this markup says. -/
def brokenParser : Markup.Backend :=
  fun _ _ => .ok [.element "html" [] [.element "head" [] [], .element "body" []
    [.element "p" [("title", .text "a\nb")] [.string .plain "x\ny"]]]]

/-- Only the title takes another line. -/
theorem lineBreaks_written_outline_broken :
    areConcrete broken = true ∧ ¬ Unbroken broken ∧
      (∃ entries, write broken 3 = .ok entries ∧ entries.map Text.lineBreaks = [1, 0] ∧
        Text.lineBreaks (CommandLine.written entries) = 3 ∧
        ¬ ∀ entry ∈ entries, '\n' ∉ entry.toList) ∧
      (CommandLine.run [] brokenMarkup [] brokenParser 0).ending = .code 0 ∧
      (CommandLine.run [] brokenMarkup [] brokenParser 0).output =
        "block_container <p title=\"a\nb\">\n  text 'x\\ny'\n" ∧
      ∃ arguments request content ts, CommandLine.parse [] = .ok arguments ∧
        CommandLine.markup arguments brokenMarkup (Logging.setUp request [] []).files =
          .ok content ∧
        (CommandLine.convert arguments (PageConverter.make (Config.make [] arguments.config [] []).1
          Registry.empty brokenParser) content 0).result = .ok ts ∧
        (preorders ts).length + ((preorders ts).map Tree.lineBreaks).sum = 3 := by
  have hbroken : areConcrete broken = true := rfl
  have hunbroken : ¬ Unbroken broken := fun h =>
    absurd ((h _ _ _ _ List.mem_cons_self).2 ("title", "a\nb") (by decide)).2 (by decide)
  have hending : (CommandLine.run [] brokenMarkup [] brokenParser 0).ending = .code 0 := by
    decide +kernel
  have houtput : (CommandLine.run [] brokenMarkup [] brokenParser 0).output =
      "block_container <p title=\"a\nb\">\n  text 'x\\ny'\n" := by
    decide +kernel
  obtain ⟨entries, hwrite, hlabels, hcount, -, hiff⟩ := (lineBreaks_written_outline hbroken 3).1
  obtain ⟨arguments, request, content, ts, hparse, hcontent, hconvert, -, hrun, -⟩ :=
    (lineBreaks_written_outline hbroken 3).2 _ _ _ _ _ hending
  rw [houtput] at hrun
  exact ⟨hbroken, hunbroken, ⟨entries, hwrite, hlabels, hcount, hunbroken ∘ hiff.mp⟩, hending,
    houtput, arguments, request, content, ts, hparse, hcontent, hconvert, hrun.symm⟩

end Outline

end TypedMarkup
