import FlatSheet.Proofs.CommandLine.SettingsSource
import FlatSheet.Proofs.FileSystem.Loading
import FlatSheet.Proofs.Record.Printing

/-! # What a run prints

A run that gets to the results of its record prints all of them and nothing else, in the style that
it was asked for. Every other run prints nothing at all. It either shows the help, because that is
the first stop, or fails with an error, whether the arguments, the settings, the record file or a
single cell is the cause. No number has an end of a line in its text, so one to a line the results
are as many lines as the record has cells.
-/

namespace FlatSheet

/-- A text is a record only when it has cells. -/
theorem Record.size_pos_of_ofText {text : Text} {record : Record}
    (read : ofText text = .ok record) : 0 < record.size := by
  rw [ofText] at read
  split at read
  · contradiction
  · next cells nonempty =>
    obtain rfl := Except.ok.inj read
    simpa [size, ofCells, List.length_pos_iff] using nonempty

/-- The texts of results are not empty and free of all characters that set them apart. -/
theorem Results.plain_of_mem_lines (results : Results) :
    ∀ line ∈ results.lines, line ≠ [] ∧ ∀ char ∈ "\n, []".toList, char ∉ line := by
  intro line member
  obtain ⟨value, -, rfl⟩ := List.mem_map.mp member
  refine ⟨Number.display_ne_nil value, fun char mark shown => ?_⟩
  have apart : ("\n, []".toList.all fun char => !char.isDigit && !Number.marks.contains char) =
      true := by decide +kernel
  have neither := List.all_eq_true.mp apart char mark
  simp only [Bool.and_eq_true, Bool.not_eq_true', List.contains_eq_mem, decide_eq_false_iff_not]
    at neither
  rcases Number.isDigit_or_mem_marks shown with digit | member
  · exact Bool.false_ne_true (neither.1.symm.trans digit)
  · exact neither.2 member

/-- No line of results is broken. -/
theorem Results.newline_notMem_lines (results : Results) : ∀ line ∈ results.lines, '\n' ∉ line :=
  fun line member => (results.plain_of_mem_lines line member).2 '\n' (by decide)

namespace CommandLine

theorem renderLines_cons (line : Text) (rest : List Text) :
    renderLines (line :: rest) = line ++ '\n' :: renderLines rest := by
  simp [renderLines]

private theorem count_newline_renderLines {lines : List Text}
    (whole : ∀ line ∈ lines, '\n' ∉ line) :
    (renderLines lines).count '\n' = lines.length := by
  induction lines with
  | nil => rfl
  | cons line rest ih =>
    obtain ⟨here, later⟩ := List.forall_mem_cons.mp whole
    rw [renderLines_cons, List.count_append, List.count_cons_self, ih later,
      List.count_eq_zero_of_not_mem here, Nat.zero_add, List.length_cons]

theorem getLast?_renderLines {lines : List Text} (some : lines ≠ []) :
    (renderLines lines).getLast? = Option.some '\n' := Text.getLast?_flatMap_append_mark '\n' some

/-- A line of the text begins with the given characters. -/
def HasLine (start text : Text) : Prop :=
  ∃ before rest, text = before ++ start ++ rest ∧ ∀ char ∈ before.getLast?, char = '\n'

private theorem getLast?_render (message : Message) : message.render.getLast? = some '\n' := by
  cases message with
  | usage =>
    exact getLast?_renderLines (List.append_ne_nil_of_left_ne_nil (List.cons_ne_nil _ _) _)
  | error | warning | file | log => exact getLast?_renderLines (List.cons_ne_nil _ _)

/-- Messages end with the end of a line, so each begins a line. -/
theorem getLast?_flatMap_render (messages : List Message) :
    ∀ char ∈ (messages.flatMap Message.render).getLast?, char = '\n' := by
  intro char last
  rcases List.eq_nil_or_concat messages with rfl | ⟨front, message, rfl⟩
  · contradiction
  · have ended : ((front.concat message).flatMap Message.render).getLast? = some '\n' := by
      simp [List.getLast?_append, getLast?_render]
    rw [ended] at last
    exact (Option.some.inj last).symm

private theorem hasLine_errors {outcome : Outcome} {text : Text}
    (reported : .error text ∈ outcome.messages) :
    HasLine "Error: ".toList outcome.errors := by
  obtain ⟨front, rest, split⟩ := List.append_of_mem reported
  refine ⟨front.flatMap Message.render, text ++ '\n' :: rest.flatMap Message.render, ?_,
    getLast?_flatMap_render front⟩
  rw [Outcome.errors, split]
  simp [Message.render, renderLines]

/-- A failed outcome has no results, and an error among its messages. -/
structure Outcome.Fails (outcome : Outcome) : Prop where
  failed : outcome.succeeded = false
  empty : outcome.results = []
  reported : ∃ text, .error text ∈ outcome.messages

theorem Outcome.Fails.exitCode {outcome : Outcome} (fails : outcome.Fails) :
    outcome.exitCode = 1 := by
  rw [Outcome.exitCode, fails.failed, if_neg Bool.false_ne_true]

theorem Outcome.Fails.output {outcome : Outcome} (fails : outcome.Fails) : outcome.output = [] := by
  rw [Outcome.output, fails.empty]
  rfl

theorem fails_failure {messages : List Message} {text : Text} (reported : .error text ∈ messages) :
    (Outcome.failure messages).Fails :=
  ⟨rfl, rfl, text, reported⟩

theorem Outcome.Fails.after {outcome : Outcome} (fails : outcome.Fails) (messages : List Message) :
    (outcome.after messages).Fails := by
  obtain ⟨text, reported⟩ := fails.reported
  exact ⟨fails.failed, fails.empty, text, List.mem_append_right messages reported⟩

private theorem fails_stopped {stop : Stop} (other : stop ≠ .help) : (stopped stop).Fails := by
  cases stop with
  | help => contradiction
  | noOperand | unknownOption argument | secondFile argument =>
    exact fails_failure List.mem_cons_self

/-- A record file that is loaded and evaluated without a fault has its results shown. -/
theorem evaluateFile_of_load {files : FileSystem} (settings : Settings) {path : Text}
    {document : Document} {results : Results}
    (loaded : Document.load files path settings.requireExtension = .ok document)
    (compiled : document.record.compile = .ok results) (verbosity : Verbosity) :
    (evaluateFile files verbosity settings path).succeeded = true ∧
      (evaluateFile files verbosity settings path).results = shown settings.style results := by
  rw [Record.compile] at compiled
  rw [evaluateFile, loaded]
  simp only [compiled, and_self]

/-- Whichever fault comes up, of the file or of one of its cells, the evaluation fails. -/
theorem exists_load_or_fails_evaluateFile (files : FileSystem) (verbosity : Verbosity)
    (settings : Settings) (path : Text) :
    (∃ document results, Document.load files path settings.requireExtension = .ok document ∧
        document.record.compile = .ok results) ∨
      (evaluateFile files verbosity settings path).Fails := by
  rw [evaluateFile]
  cases loaded : Document.load files path settings.requireExtension with
  | error fault => exact .inr (fails_failure (List.mem_cons_of_mem _ List.mem_cons_self))
  | ok document =>
    cases compiled : document.record.pass.results with
    | error fault =>
      right
      simp only [compiled]
      exact fails_failure (List.mem_append_right _ (List.mem_singleton_self _))
    | ok results => exact .inl ⟨document, results, rfl, compiled⟩

/-- A run gets to results: no word stops it, one names a record file, there are settings, and under
them the file is loaded and all its cells are evaluated. -/
structure Reaches (files : FileSystem) (reader : Text → Except Text Settings)
    (default? : Option Text) (arguments : List Text) (style : OutputStyle) (document : Document)
    (results : Results) : Prop where
  free : StopFree (words arguments)
  loaded : ∃ path settings warning?, .file path ∈ words arguments ∧
    Resolves files reader default? (optionsOf (words arguments)) settings warning? ∧
    ((words arguments).filterMap Word.style?).getLast?.getD settings.style = style ∧
    Document.load files path
      (settings.requireExtension && !decide (.anyExtension ∈ words arguments)) = .ok document
  compiled : document.record.compile = .ok results

section

variable {files : FileSystem} {reader : Text → Except Text Settings} {default? : Option Text}
  {arguments : List Text} {style : OutputStyle} {document : Document} {results : Results}

theorem run_of_reaches (reaches : Reaches files reader default? arguments style document results) :
    (run files reader default? arguments).exitCode = 0 ∧
      (run files reader default? arguments).output = renderLines (shown style results) := by
  obtain ⟨path, settings, warning?, file, resolves, rfl, loaded⟩ := reaches.loaded
  rw [run_of_resolves reaches.free file resolves]
  obtain ⟨succeeded, printed⟩ :=
    evaluateFile_of_load ((optionsOf (words arguments)).override settings) loaded reaches.compiled
      (optionsOf (words arguments)).verbosity
  constructor
  · rw [Outcome.exitCode, Outcome.after, succeeded, if_pos rfl]
  · exact congrArg renderLines printed

private theorem Reaches.size_pos
    (reaches : Reaches files reader default? arguments style document results) :
    0 < results.size := by
  obtain ⟨path, settings, warning?, -, -, -, loaded⟩ := reaches.loaded
  obtain ⟨-, text, -, read⟩ := Document.exists_ofText_of_load loaded
  rw [Record.compile_size reaches.compiled]
  exact Record.size_pos_of_ofText read

/-- A run reaches results, or shows the help, or fails by the first of its stages that goes wrong. -/
theorem reaches_or_help_or_fails (files : FileSystem) (reader : Text → Except Text Settings)
    (default? : Option Text) (arguments : List Text) :
    (∃ style document results, Reaches files reader default? arguments style document results) ∨
      FirstStop (words arguments) .help ∨ (run files reader default? arguments).Fails := by
  rcases stopFree_or_exists_firstStop (words arguments) with free | ⟨stop, first⟩
  · by_cases named : ∃ path, .file path ∈ words arguments
    · obtain ⟨path, file⟩ := named
      rcases exists_resolves_or_unusable files reader default? (optionsOf (words arguments)) with
        ⟨settings, warning?, resolves⟩ | ⟨enabled, place, config, unusable⟩
      · rcases exists_load_or_fails_evaluateFile files (optionsOf (words arguments)).verbosity
          ((optionsOf (words arguments)).override settings) path with
          ⟨document, results, loaded, compiled⟩ | fails
        · exact .inl ⟨((optionsOf (words arguments)).override settings).style, document, results,
            free, ⟨path, settings, warning?, file, resolves, rfl, loaded⟩, compiled⟩
        · rw [run_of_resolves free file resolves]
          exact .inr (.inr (fails.after _))
      · obtain ⟨fault, failed⟩ := exists_load_eq_error unusable
        rw [run_of_load_eq_error free file enabled config failed]
        exact .inr (.inr (fails_failure List.mem_cons_self))
    · rw [run_of_no_file free fun path file => named ⟨path, file⟩]
      exact .inr (.inr (fails_failure List.mem_cons_self))
  · by_cases help : stop = .help
    · exact .inr (.inl (help ▸ first))
    · rw [run_of_firstStop first]
      exact .inr (.inr (fails_stopped help))

private theorem Reaches.output_ne_nil
    (reaches : Reaches files reader default? arguments style document results) :
    (run files reader default? arguments).output ≠ [] := by
  have nonempty : shown style results ≠ [] := by
    cases style with
    | list => exact List.cons_ne_nil _ _
    | lines =>
      rw [← List.length_pos_iff, shown, results.length_lines]
      exact reaches.size_pos
  intro empty
  have ended := getLast?_renderLines nonempty
  rw [← (run_of_reaches reaches).2, empty] at ended
  contradiction

end

/-- A run ends with zero or one. It prints something exactly when it reaches results, and then it
ends with zero and prints all results of the record in the style that is asked for. The other way to
end with zero is that the help is the first stop. In every other case it ends with one, prints
nothing and reports an error. -/
theorem prints_all_or_nothing (files : FileSystem) (reader : Text → Except Text Settings)
    (default? : Option Text) (arguments : List Text) :
    let outcome := run files reader default? arguments
    (outcome.exitCode = 0 ∨ outcome.exitCode = 1) ∧
    (outcome.output ≠ [] ↔ ∃ style document results,
      Reaches files reader default? arguments style document results) ∧
    (∀ style document results, Reaches files reader default? arguments style document results →
      outcome.exitCode = 0 ∧ results.size = document.record.size ∧
      match style with
      | .list => outcome.output = results.text ++ ['\n']
      | .lines => outcome.output = results.lines.flatMap (· ++ ['\n']) ∧
          outcome.output.count '\n' = document.record.size) ∧
    (outcome.exitCode = 0 ∧ outcome.output = [] ↔ FirstStop (words arguments) .help) ∧
    ((¬∃ style document results, Reaches files reader default? arguments style document results) →
      ¬FirstStop (words arguments) .help →
      outcome.exitCode = 1 ∧ outcome.output = [] ∧ HasLine "Error: ".toList outcome.errors) := by
  intro outcome
  have ways := reaches_or_help_or_fails files reader default? arguments
  have helped (help : FirstStop (words arguments) .help) : outcome = stopped .help :=
    run_of_firstStop help
  refine ⟨?_, ⟨fun printed => ?_, ?_⟩, ?_, ⟨fun ⟨zero, empty⟩ => ?_, fun help => ?_⟩,
    fun unreached unhelped => ?_⟩
  · rcases ways with ⟨style, document, results, reaches⟩ | help | fails
    · exact .inl (run_of_reaches reaches).1
    · exact .inl (by rw [helped help]; rfl)
    · exact .inr fails.exitCode
  · rcases ways with reached | help | fails
    · exact reached
    · exact absurd (by rw [helped help]; rfl) printed
    · exact absurd fails.output printed
  · rintro ⟨style, document, results, reaches⟩
    exact reaches.output_ne_nil
  · intro style document results reaches
    obtain ⟨zero, printed⟩ := run_of_reaches reaches
    have size := Record.compile_size reaches.compiled
    refine ⟨zero, size, ?_⟩
    cases style with
    | list =>
      rw [printed, shown, renderLines_cons]
      rfl
    | lines =>
      refine ⟨printed, ?_⟩
      rw [printed, shown, count_newline_renderLines results.newline_notMem_lines,
        results.length_lines, size]
  · rcases ways with ⟨style, document, results, reaches⟩ | help | fails
    · exact absurd empty reaches.output_ne_nil
    · exact help
    · exact absurd (zero.symm.trans fails.exitCode) Nat.zero_ne_one
  · rw [helped help]
    exact ⟨rfl, rfl⟩
  · have fails : outcome.Fails := (ways.resolve_left unreached).resolve_left unhelped
    obtain ⟨text, reported⟩ := fails.reported
    exact ⟨fails.exitCode, fails.output, hasLine_errors reported⟩

/-- Of two record files one is printed, and of the other one the first cell is not printed either,
since the second one has a range the wrong way round. The help is no failure. -/
theorem prints_all_or_nothing_failing_cell :
    let files : FileSystem :=
      { size := fun _ => .ok 20
        read := fun path =>
          .ok (if path = "a.csv".toList then "1 =SUM(A1)".toList else "1 =SUM(B1:A1)".toList) }
    let outcome := run files Settings.parse none
    let whole := ["--lines".toList, "a.csv".toList]
    let help := ["-v".toList, "--help".toList, "-x".toList]
    let failing := ["--lines".toList, "b.csv".toList]
    (outcome whole).exitCode = 0 ∧ (outcome whole).output = "1\n1\n".toList ∧
      (outcome help).exitCode = 0 ∧ (outcome help).output = [] ∧
      (outcome failing).exitCode = 1 ∧ (outcome failing).output = [] ∧
      HasLine "Error: ".toList (outcome failing).errors := by
  intro files outcome whole help failing
  let document : Document :=
    { record := Record.ofCells ["1".toList, "=SUM(A1)".toList], path? := some "a.csv".toList }
  have resolves : Resolves files Settings.parse none (optionsOf (words whole)) {} none :=
    .absent rfl rfl (by simp)
  have reaches : Reaches files Settings.parse none whole .lines document ⟨#[1, 1]⟩ :=
    ⟨by decide, ⟨"a.csv".toList, {}, none, by decide, resolves, rfl, rfl⟩, by decide +kernel⟩
  obtain ⟨-, -, printed, -, -⟩ := prints_all_or_nothing files Settings.parse none whole
  obtain ⟨zero, -, output, -⟩ := printed .lines document _ reaches
  obtain ⟨-, -, -, helped, -⟩ := prints_all_or_nothing files Settings.parse none help
  obtain ⟨helpZero, helpEmpty⟩ :=
    helped.mpr ⟨[.verbosity .verbose], .help, _, rfl, by decide, .alone rfl⟩
  obtain ⟨-, reached, -, helpless, failed⟩ :=
    prints_all_or_nothing files Settings.parse none failing
  have one : (outcome failing).exitCode = 1 := by decide +kernel
  have empty : (outcome failing).output = [] := by decide +kernel
  obtain ⟨-, -, reported⟩ := failed (fun reaches => reached.mpr reaches empty) fun help =>
    absurd (one.symm.trans (helpless.mpr help).1) Nat.one_ne_zero
  exact ⟨zero, output.trans (by decide +kernel), helpZero, helpEmpty, one, empty, reported⟩

end CommandLine

end FlatSheet
