import FlatSheet.Proofs.CommandLine.Output

/-! # The two styles of output

The texts of results are set apart by the ends of lines in one style and by commas in the other, and
none of them has such a character in it or is empty. So either style tells all texts and how many
there are. Two runs whose words differ only in the style read the same record file with the same
settings, so they print the same texts in the two ways, or neither gets to results.
-/

namespace FlatSheet

namespace Results

/-- The list of results tells their texts. -/
theorem lines_eq_of_text_eq {first second : Results} (same : first.text = second.text) :
    first.lines = second.lines := by
  have parts (results : Results) : ∀ line ∈ results.lines, line ≠ [] ∧ ',' ∉ line :=
    fun line member =>
      (results.plain_of_mem_lines line member).imp_right fun free => free ',' (by decide)
  have joined : Text.join ", ".toList first.lines = Text.join ", ".toList second.lines :=
    List.append_cancel_right (List.cons.inj same).2
  exact Text.join_injOn (by decide) (parts first) (parts second) joined

end Results

namespace CommandLine

/-- The lines that a text consists of. -/
def linesOf (text : Text) : List Text := (text.splitOn '\n').dropLast

private theorem linesOf_renderLines {lines : List Text} (whole : ∀ line ∈ lines, '\n' ∉ line) :
    linesOf (renderLines lines) = lines := by
  have joined : renderLines lines = Text.join ['\n'] (lines ++ [[]]) := by
    rw [Text.join_append_cons, Text.join_cons]
    simp [renderLines]
  have ended : ∀ line ∈ lines ++ [[]], '\n' ∉ line := by
    intro line member
    rcases List.mem_append.mp member with inside | last
    · exact whole line inside
    · rw [List.mem_singleton.mp last]
      exact List.not_mem_nil
  rw [linesOf, joined, Text.join, List.splitOn_intercalate '\n' ended (by simp),
    List.dropLast_concat]

/-- The words that are not on the style. -/
def unstyled (words : List Word) : List Word := words.filter fun word => word.style?.isNone

theorem filterMap_unstyled {α : Type} {kind? : Word → Option α} (words : List Word)
    (other : ∀ asked, kind? (.style asked) = none) :
    (unstyled words).filterMap kind? = words.filterMap kind? := by
  refine filterMap_filter_of_none (fun word dropped => ?_) words
  cases word with
  | style asked => exact other asked
  | _ => contradiction

theorem mem_unstyled_iff {word : Word} {words : List Word} (other : word.style? = none) :
    word ∈ unstyled words ↔ word ∈ words := by
  simp [unstyled, other]

/-- The style is no stop. -/
theorem stopFree_unstyled_iff (words : List Word) : StopFree (unstyled words) ↔ StopFree words := by
  have files : (unstyled words).filterMap Word.file? = words.filterMap Word.file? :=
    filterMap_unstyled words fun _ => rfl
  constructor
  · rintro ⟨unstopped, oneFile⟩
    refine ⟨fun word member => ?_, files ▸ oneFile⟩
    cases style : word.style? with
    | none => exact unstopped word ((mem_unstyled_iff style).mpr member)
    | some asked =>
      cases word with
      | style asked => rfl
      | _ => contradiction
  · rintro ⟨unstopped, oneFile⟩
    exact ⟨fun word member => unstopped word (List.mem_of_mem_filter member), files ▸ oneFile⟩

/-- What stops first is the same without the words on the style. -/
theorem firstStop_unstyled_iff (words : List Word) (stop : Stop) :
    FirstStop (unstyled words) stop ↔ FirstStop words stop := by
  constructor
  · rintro ⟨before, word, after, split, free, stops⟩
    obtain ⟨front, rest, rfl, rfl, later⟩ := List.filter_eq_append_iff.mp split
    obtain ⟨styles, behind, rfl, onStyle, -, rfl⟩ := List.filter_eq_cons_iff.mp later
    have same : unstyled (front ++ styles) = unstyled front := by
      rw [unstyled, List.filter_append, List.filter_eq_nil_iff.mpr onStyle, List.append_nil]
      rfl
    refine ⟨front ++ styles, word, behind, (List.append_assoc ..).symm, ?_, ?_⟩
    · rw [← stopFree_unstyled_iff, same]
      exact free
    · cases stops with
      | alone stops => exact .alone stops
      | secondFile earlier =>
        exact .secondFile (List.mem_append_left _ (List.mem_of_mem_filter earlier))
  · rintro ⟨before, word, after, rfl, free, stops⟩
    have other : word.style? = none := by
      cases stops with
      | alone stops =>
        cases word with
        | style asked => contradiction
        | _ => rfl
      | secondFile earlier => rfl
    refine ⟨unstyled before, word, unstyled after, ?_, (stopFree_unstyled_iff before).mpr free, ?_⟩
    · rw [unstyled, List.filter_append, List.filter_cons_of_pos (by rw [other]; rfl)]
      rfl
    · cases stops with
      | alone stops => exact .alone stops
      | secondFile earlier => exact .secondFile ((mem_unstyled_iff rfl).mpr earlier)

section

variable {files : FileSystem} {reader : Text → Except Text Settings} {default? : Option Text}
  {first second : List Text} {style other : OutputStyle} {document : Document} {results : Results}

/-- Where the settings come from depends on the words on settings files only. -/
theorem Resolves.congr {options others : Options} {settings : Settings}
    {warning? : Option SettingsFault} (sameOff : others.noConfig = options.noConfig)
    (sameConfig : others.config? = options.config?)
    (resolves : Resolves files reader default? options settings warning?) :
    Resolves files reader default? others settings warning? := by
  cases resolves with
  | disabled off => exact .disabled (sameOff.trans off)
  | named on named usable => exact .named (sameOff.trans on) (sameConfig.trans named) usable
  | absent on unnamed absent => exact .absent (sameOff.trans on) (sameConfig.trans unnamed) absent
  | byDefault on unnamed place usable =>
    exact .byDefault (sameOff.trans on) (sameConfig.trans unnamed) place usable
  | passedOver on unnamed place present failed =>
    exact .passedOver (sameOff.trans on) (sameConfig.trans unnamed) place present failed

/-- Words with another style reach the same results. -/
theorem Reaches.restyled (same : unstyled (words first) = unstyled (words second))
    (asked : ((words second).filterMap Word.style?).getLast? = some other)
    (reaches : Reaches files reader default? first style document results) :
    Reaches files reader default? second other document results := by
  obtain ⟨path, settings, warning?, file, resolves, -, loaded⟩ := reaches.loaded
  have member (word : Word) (plain : word.style? = none) :
      word ∈ words second ↔ word ∈ words first := by
    rw [← mem_unstyled_iff plain, ← same, mem_unstyled_iff plain]
  have configs : (optionsOf (words second)).config? = (optionsOf (words first)).config? := by
    simp only [optionsOf]
    rw [← filterMap_unstyled (words second) fun _ => rfl, ← same,
      filterMap_unstyled (words first) fun _ => rfl]
  have off : (optionsOf (words second)).noConfig = (optionsOf (words first)).noConfig := by
    simp only [optionsOf, member .noConfig rfl]
  refine ⟨?_, ⟨path, settings, warning?, (member _ rfl).mpr file, resolves.congr off configs, ?_, ?_⟩,
    reaches.compiled⟩
  · rw [← stopFree_unstyled_iff, ← same, stopFree_unstyled_iff]
    exact reaches.free
  · rw [asked, Option.getD_some]
  · simpa only [member .anyExtension rfl] using loaded

private theorem exitCode_restyled (same : unstyled (words first) = unstyled (words second))
    (asked : ((words second).filterMap Word.style?).getLast? = some other)
    (zero : (run files reader default? first).exitCode = 0) :
    (run files reader default? second).exitCode = 0 := by
  rcases reaches_or_help_or_fails files reader default? first with
    ⟨style, document, results, reaches⟩ | help | fails
  · exact (run_of_reaches (reaches.restyled same asked)).1
  · rw [← firstStop_unstyled_iff, same, firstStop_unstyled_iff] at help
    rw [run_of_firstStop help]
    rfl
  · exact absurd (zero.symm.trans fails.exitCode) Nat.zero_ne_one

/-- The output in lines has the text of each result for a line. -/
theorem linesOf_output (reaches : Reaches files reader default? first .lines document results) :
    linesOf (run files reader default? first).output = results.lines := by
  rw [(run_of_reaches reaches).2]
  exact linesOf_renderLines results.newline_notMem_lines

end

/-- No text of a result is empty or has an end of a line, a comma, a blank or a bracket in it. So
lists of results that look the same have the same texts, as many in one as in the other. Two runs
that differ in the style alone succeed together and reach the same results, if any. When they
succeed without showing the help, the run in lines prints whole lines, one for each cell of the
record, and the other run prints these in brackets with a comma and a blank between neighbours. -/
theorem styles_print_same_results :
    (∀ results : Results, ∀ line ∈ results.lines,
      line ≠ [] ∧ ∀ char ∈ "\n, []".toList, char ∉ line) ∧
    (∀ first second : Results, first.text = second.text →
      first.size = second.size ∧ first.lines = second.lines) ∧
    ∀ (files : FileSystem) (reader : Text → Except Text Settings) (default? : Option Text)
      (listed lined : List Text), unstyled (words listed) = unstyled (words lined) →
      ((words listed).filterMap Word.style?).getLast? = some .list →
      ((words lined).filterMap Word.style?).getLast? = some .lines →
      let list := run files reader default? listed
      let lines := run files reader default? lined
      (list.exitCode = 0 ↔ lines.exitCode = 0) ∧
      (∀ document results, Reaches files reader default? listed .list document results ↔
        Reaches files reader default? lined .lines document results) ∧
      (list.exitCode = 0 → ¬FirstStop (words listed) .help → ∃ document results,
        Reaches files reader default? listed .list document results ∧
        lines.output = renderLines (linesOf lines.output) ∧
        (linesOf lines.output).length = document.record.size ∧
        list.output = '[' :: Text.join ", ".toList (linesOf lines.output) ++ "]\n".toList) := by
  refine ⟨Results.plain_of_mem_lines, fun first second same => ?_, ?_⟩
  · have texts := Results.lines_eq_of_text_eq same
    exact ⟨by rw [← first.length_lines, texts, second.length_lines], texts⟩
  · intro files reader default? listed lined same askedList askedLines list lines
    refine ⟨⟨exitCode_restyled same askedLines, exitCode_restyled same.symm askedList⟩,
      fun document results => ⟨.restyled same askedLines, .restyled same.symm askedList⟩,
      fun zero unhelped => ?_⟩
    rcases reaches_or_help_or_fails files reader default? listed with
      ⟨style, document, results, reaches⟩ | help | fails
    · have asList := reaches.restyled rfl askedList
      have asLines := reaches.restyled same askedLines
      have texts : linesOf lines.output = results.lines := linesOf_output asLines
      rw [texts]
      refine ⟨document, results, asList, (run_of_reaches asLines).2, ?_, ?_⟩
      · rw [results.length_lines, Record.compile_size reaches.compiled]
      · have printed : list.output = renderLines (shown .list results) := (run_of_reaches asList).2
        rw [printed, shown, renderLines_cons, Results.text]
        simp [renderLines]
    · exact absurd help unhelped
    · exact absurd (zero.symm.trans fails.exitCode) Nat.zero_ne_one

/-- The last word on the style counts, and a result may have decimals. -/
theorem styles_print_same_results_fraction :
    let files : FileSystem :=
      { size := fun _ => .ok 20
        read := fun _ => .ok "-1 \"=AVG(A1,2.5)\"".toList }
    let listed := ["--lines".toList, "a.csv".toList, "--list".toList]
    let list := run files Settings.parse none listed
    let lines := run files Settings.parse none ["a.csv".toList, "--lines".toList]
    lines.output = "-1\n0.75\n".toList ∧ list.output = "[-1, 0.75]\n".toList ∧
      list.output = '[' :: Text.join ", ".toList (linesOf lines.output) ++ "]\n".toList := by
  intro files listed list lines
  obtain ⟨-, -, runs⟩ := styles_print_same_results
  obtain ⟨-, -, prints⟩ :=
    runs files Settings.parse none listed ["a.csv".toList, "--lines".toList] (by decide)
      (by decide) (by decide)
  have printed : list.output = "[-1, 0.75]\n".toList := by decide +kernel
  have unhelped : ¬FirstStop (words listed) .help := by
    intro help
    have nothing : list.output = [] := congrArg Outcome.output (run_of_firstStop help)
    exact absurd (printed.symm.trans nothing) (by decide)
  obtain ⟨document, results, -, -, -, joined⟩ := prints (by decide +kernel) unhelped
  exact ⟨by decide +kernel, printed, joined⟩

end CommandLine

end FlatSheet
