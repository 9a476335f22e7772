import FlatSheet.Proofs.CommandLine.SettingsSource
import FlatSheet.Proofs.Record.Warnings

/-! # What the verbosity changes

The words on verbosity decide which entries of the log a run shows and nothing else. A run that shows
everything has all its messages in order. Any other run with the same words besides leaves out
entries of the log: a quiet one all of them, and a normal one those that are no warnings. So results,
exit code and all other messages are the same, and the entries that are left keep their order.
-/

namespace FlatSheet.CommandLine

namespace Message

/-- The entry of the log that a message shows. -/
def entry? : Message → Option LogEntry
  | .log entry => some entry
  | _ => none

/-- Whether a message is shown under a verbosity. Only entries of the log may be left out. -/
def isShown (verbosity : Verbosity) (message : Message) : Bool :=
  message.entry?.all fun entry => verbosity.shows entry.severity

end Message

/-- The words that are not on verbosity. -/
def besides (words : List Word) : List Word := words.filter fun word => word.verbosity?.isNone

/-- The options with the whole log shown. -/
def Options.inFull (options : Options) : Options := { options with verbosity := .verbose }

/-- The outcome with the messages that are shown under a verbosity. -/
def Outcome.under (verbosity : Verbosity) (outcome : Outcome) : Outcome :=
  { outcome with messages := outcome.messages.filter (Message.isShown verbosity) }

private theorem filterMap_besides {α : Type} {kind? : Word → Option α} (words : List Word)
    (other : ∀ asked, kind? (.verbosity asked) = none) :
    (besides words).filterMap kind? = words.filterMap kind? := by
  refine filterMap_filter_of_none (fun word dropped => ?_) words
  cases word with
  | verbosity asked => exact other asked
  | _ => contradiction

private theorem mem_besides_iff (word : Word) (words : List Word) (other : word.verbosity? = none) :
    word ∈ besides words ↔ word ∈ words := by
  simp [besides, other]

/-- All options but the verbosity are those of the words besides. -/
theorem inFull_optionsOf_besides (words : List Word) :
    (optionsOf (besides words)).inFull = (optionsOf words).inFull := by
  simp only [Options.inFull, optionsOf]
  rw [filterMap_besides words fun _ => rfl, filterMap_besides words fun _ => rfl,
    filterMap_besides words fun _ => rfl]
  simp only [mem_besides_iff .noConfig words rfl, mem_besides_iff .anyExtension words rfl]

private theorem filter_logMessages (verbosity : Verbosity) (entries : List LogEntry) :
    (logMessages .verbose entries).filter (Message.isShown verbosity) =
      logMessages verbosity entries := by
  rw [logMessages, logMessages, List.filter_map]
  simp [Verbosity.shows, Function.comp_def, Message.isShown, Message.entry?]

private theorem filterMap_logMessages (verbosity : Verbosity) (entries : List LogEntry) :
    (logMessages verbosity entries).filterMap Message.entry? =
      entries.filter fun entry => verbosity.shows entry.severity := by
  rw [logMessages, List.filterMap_map]
  exact List.filterMap_some

/-- Messages that show no entry of the log are shown under every verbosity. -/
theorem filter_isShown_of_unlogged {messages : List Message}
    (unlogged : ∀ message ∈ messages, message.entry? = none) (verbosity : Verbosity) :
    messages.filter (Message.isShown verbosity) = messages := by
  refine List.filter_eq_self.mpr fun message member => ?_
  rw [Message.isShown, unlogged message member]
  rfl

private theorem under_after {messages : List Message}
    (unlogged : ∀ message ∈ messages, message.entry? = none) (verbosity : Verbosity)
    (outcome : Outcome) :
    (outcome.after messages).under verbosity = (outcome.under verbosity).after messages := by
  rw [Outcome.under, Outcome.after, List.filter_append, filter_isShown_of_unlogged unlogged]
  rfl

private theorem evaluateFile_under (files : FileSystem) (verbosity : Verbosity)
    (settings : Settings)
    (path : Text) :
    evaluateFile files verbosity settings path =
      (evaluateFile files .verbose settings path).under verbosity := by
  rw [evaluateFile, evaluateFile]
  cases Document.load files path settings.requireExtension with
  | error fault => rfl
  | ok document =>
    have kept (entries : List LogEntry) :
        (.file path :: logMessages .verbose entries).filter (Message.isShown verbosity) =
          .file path :: logMessages verbosity entries := by
      rw [List.filter_cons_of_pos rfl, filter_logMessages]
    cases evaluated : document.record.pass.results with
    | error fault =>
      simp only [evaluated, Outcome.under, Outcome.failure, List.filter_append, kept]
      rfl
    | ok results => simp only [evaluated, Outcome.under, kept]

/-- A warning about a settings file is no entry of the log. -/
theorem entry?_of_mem_warnings (warning? : Option SettingsFault) :
    ∀ message ∈ (warning?.map settingsWarning).toList, message.entry? = none := by
  cases warning? with
  | none => simp
  | some fault => simp [settingsWarning, Message.entry?]

private theorem runFile_under (files : FileSystem) (reader : Text → Except Text Settings)
    (default? : Option Text) (options : Options) (path : Text) :
    runFile files reader default? options path =
      (runFile files reader default? options.inFull path).under options.verbosity := by
  rw [runFile, runFile, Options.inFull]
  generalize (if options.noConfig then { settings := .ok {}, warning? := none }
    else Settings.resolve files reader options.config? default? : LoadedSettings) = loaded
  cases loaded.settings with
  | error fault =>
    simp only [under_after (entry?_of_mem_warnings _)]
    rfl
  | ok settings =>
    simp only [under_after (entry?_of_mem_warnings _)]
    rw [evaluateFile_under]
    rfl

/-- What a run leaves once its options are read. -/
def runOptions (files : FileSystem) (reader : Text → Except Text Settings) (default? : Option Text)
    (options : Options) : Outcome :=
  match options.file? with
  | none => .failure [.error "missing FILE argument".toList, .usage]
  | some path => runFile files reader default? options path

private theorem runOptions_under (files : FileSystem) (reader : Text → Except Text Settings)
    (default? : Option Text) (options : Options) :
    runOptions files reader default? options =
      (runOptions files reader default? options.inFull).under options.verbosity := by
  rw [runOptions, runOptions]
  dsimp only [Options.inFull]
  cases options.file? with
  | none => rfl
  | some path => exact runFile_under files reader default? options path

/-- A run without a stop shows what its verbosity lets through of an outcome that depends on its
other words alone. -/
theorem run_under (files : FileSystem) (reader : Text → Except Text Settings)
    (default? : Option Text) {arguments : List Text} (free : StopFree (words arguments)) :
    run files reader default? arguments =
      (runOptions files reader default? (optionsOf (besides (words arguments))).inFull).under
        (optionsOf (words arguments)).verbosity := by
  rw [run, read_of_stopFree free, inFull_optionsOf_besides]
  exact runOptions_under files reader default? (optionsOf (words arguments))

private theorem isShown_quiet (message : Message) :
    message.isShown .quiet = message.entry?.isNone := by
  cases message with
  | log entry => rfl
  | _ => rfl

private theorem isShown_verbose (message : Message) : message.isShown .verbose = true := by
  cases message with
  | log entry => rfl
  | _ => rfl

/-- Whatever the verbosity, all messages that show no entry of the log are left. -/
theorem filter_unlogged_under (outcome : Outcome) (verbosity : Verbosity) :
    ((outcome.under verbosity).messages.filter fun message => message.entry?.isNone) =
      outcome.messages.filter fun message => message.entry?.isNone := by
  rw [Outcome.under, List.filter_filter]
  refine List.filter_congr fun message _ => ?_
  cases message with
  | log entry => rfl
  | _ => rfl

/-- A record that is loaded has the log of its pass shown, as far as the verbosity lets it through. -/
theorem entries_evaluateFile {files : FileSystem} (settings : Settings) {path : Text}
    {document : Document}
    (loaded : Document.load files path settings.requireExtension = .ok document)
    (verbosity : Verbosity) :
    (evaluateFile files verbosity settings path).messages.filterMap Message.entry? =
      (.loaded path document.record.size :: document.record.pass.log).filter fun entry =>
        verbosity.shows entry.severity := by
  rw [evaluateFile, loaded, ← filterMap_logMessages]
  cases evaluated : document.record.pass.results with
  | error fault =>
    simp only [evaluated, Outcome.failure, List.filterMap_append]
    rw [List.filterMap_cons_none rfl, List.filterMap_cons_none rfl, List.filterMap_nil,
      List.append_nil]
  | ok results =>
    simp only [evaluated]
    rw [List.filterMap_cons_none rfl]

/-- Of what a pass logs together with the loading of its record, the warnings are those of the
pass. -/
theorem filter_shows (record : Record) (path : Text) (size : Nat) (verbosity : Verbosity) :
    ((.loaded path size :: record.pass.log).filter fun entry => verbosity.shows entry.severity) =
      match verbosity with
      | .quiet => []
      | .normal => (record.handled record.calls).filterMap Record.warning?
      | .verbose => .loaded path size :: record.pass.log := by
  cases verbosity with
  | quiet => exact List.filter_false _
  | normal => exact record.pass_warnings
  | verbose => exact List.filter_true _

/-- Runs without a stop that have the same words besides those on verbosity print the same, end with
the same code and show the same messages except for entries of the log. All of them show messages
out of one sequence: a quiet run leaves out the entries of the log, a normal one those that are no
warnings, and a verbose one nothing. For a record that is loaded the entries in this sequence are
its loading and the log of its pass. Of these the warnings are one for each invalid formula in front
of the first cell that fails, in order and with the index of the cell, so of all invalid formulas if
none fails. -/
theorem verbosity_filters_log (files : FileSystem) (reader : Text → Except Text Settings)
    (default? : Option Text) :
    (∀ first second, StopFree (words first) → StopFree (words second) →
      besides (words first) = besides (words second) →
      let one := run files reader default? first
      let other := run files reader default? second
      one.output = other.output ∧ one.exitCode = other.exitCode ∧
        (one.messages.filter fun message => message.entry?.isNone) =
          other.messages.filter fun message => message.entry?.isNone) ∧
    (∀ kept : List Word, ∃ whole : List Message, ∀ arguments, StopFree (words arguments) →
      besides (words arguments) = kept →
      (run files reader default? arguments).messages =
        match ((words arguments).filterMap Word.verbosity?).getLast?.getD .normal with
        | .quiet => whole.filter fun message => message.entry?.isNone
        | .normal => whole.filter fun message => message.entry?.all LogEntry.isWarning
        | .verbose => whole) ∧
    (∀ arguments path settings warning? document, StopFree (words arguments) →
      .file path ∈ words arguments →
      Resolves files reader default? (optionsOf (words arguments)) settings warning? →
      Document.load files path
        (settings.requireExtension && !decide (.anyExtension ∈ words arguments)) = .ok document →
      (run files reader default? arguments).messages.filterMap Message.entry? =
        match ((words arguments).filterMap Word.verbosity?).getLast?.getD .normal with
        | .quiet => []
        | .normal => (document.record.handled document.record.calls).filterMap Record.warning?
        | .verbose => .loaded path document.record.size :: document.record.pass.log) ∧
    ∀ record : Record,
      record.pass.log.filter LogEntry.isWarning =
        (record.handled record.calls).filterMap Record.warning? ∧
      (∀ index cell, .zeroed index cell ∈ record.pass.log ↔
        (index, cell) ∈ record.handled record.calls ∧ Content.classify cell = .ok .invalid) ∧
      ∀ results, record.compile = .ok results → record.handled record.calls = record.calls := by
  refine ⟨fun first second free alsoFree same => ?_, fun kept => ?_,
    fun arguments path settings warning? document free file resolves loaded => ?_,
    fun record => ⟨record.pass_warnings, record.zeroed_mem_log_iff,
      fun results compiled => Record.handled_calls_of_compile compiled⟩⟩
  · intro one other
    have whole : one = _ := run_under files reader default? free
    have others : other = _ := run_under files reader default? alsoFree
    rw [whole, others, same]
    exact ⟨rfl, rfl, by rw [filter_unlogged_under, filter_unlogged_under]⟩
  · refine ⟨(runOptions files reader default? (optionsOf kept).inFull).messages, ?_⟩
    rintro arguments free rfl
    rw [run_under files reader default? free, Outcome.under]
    change _ = match (optionsOf (words arguments)).verbosity with
      | .quiet => _
      | .normal => _
      | .verbose => _
    cases (optionsOf (words arguments)).verbosity with
    | quiet => exact List.filter_congr fun message _ => isShown_quiet message
    | normal => rfl
    | verbose => exact List.filter_eq_self.mpr fun message _ => isShown_verbose message
  · rw [run_of_resolves free file resolves, Outcome.after, List.filterMap_append]
    have unlogged : (warning?.map settingsWarning).toList.filterMap Message.entry? = [] :=
      List.filterMap_eq_nil_iff.mpr (entry?_of_mem_warnings warning?)
    rw [unlogged, List.nil_append, entries_evaluateFile _ loaded, filter_shows]
    rfl

/-- The third cell fails, so there is a warning about the first one and none about the last one. The
operand of `-c` is no word on verbosity although it looks like one. -/
theorem verbosity_filters_log_failing_cell :
    let files : FileSystem :=
      { size := fun _ => .ok 20
        read := fun path => .ok (if path = "a.csv".toList then "=FOO() 1 x =BAR()".toList else []) }
    let outcome := run files Settings.parse none
    let quiet := ["-v".toList, "-c".toList, "-v".toList, "a.csv".toList, "-q".toList]
    let normal := ["-c".toList, "-v".toList, "a.csv".toList]
    let verbose := ["-c".toList, "-v".toList, "--verbose".toList, "a.csv".toList]
    ((outcome quiet).exitCode = (outcome verbose).exitCode ∧
        (outcome verbose).exitCode = 1 ∧
        ((outcome quiet).messages.filter fun message => message.entry?.isNone) =
          (outcome verbose).messages.filter fun message => message.entry?.isNone) ∧
      (outcome normal).messages =
        ((outcome verbose).messages.filter fun message => message.entry?.all LogEntry.isWarning) ∧
      (outcome quiet).messages.filterMap Message.entry? = [] ∧
      (outcome normal).messages.filterMap Message.entry? = [.zeroed 0 "=FOO()".toList] ∧
      (outcome verbose).messages.filterMap Message.entry? =
        [.loaded "a.csv".toList 4, .classified 0 "=FOO()".toList .invalid,
          .zeroed 0 "=FOO()".toList, .classified 1 ['1'] (.literal 1)] ∧
      (Record.ofCells [['1'], "=FOO()".toList]).pass.log.filter LogEntry.isWarning =
        [.zeroed 1 "=FOO()".toList] := by
  intro files outcome quiet normal verbose
  obtain ⟨agree, sequence, entries, passes⟩ := verbosity_filters_log files Settings.parse none
  have same : besides (words quiet) = besides (words verbose) := by decide
  obtain ⟨-, code, messages⟩ := agree quiet verbose (by decide) (by decide) same
  obtain ⟨whole, shown⟩ := sequence (besides (words verbose))
  have all : (outcome verbose).messages = whole := shown verbose (by decide) rfl
  have usable : Usable files Settings.parse "-v".toList {} := ⟨⟨20, by decide, rfl⟩, [], rfl, rfl⟩
  let document : Document :=
    { record := Record.ofCells ["=FOO()".toList, ['1'], ['x'], "=BAR()".toList]
      path? := some "a.csv".toList }
  have loaded : Document.load files "a.csv".toList true = .ok document := by decide +kernel
  have zeroed : (document.record.handled document.record.calls).filterMap Record.warning? =
      [.zeroed 0 "=FOO()".toList] := by decide +kernel
  refine ⟨⟨code, by decide +kernel, messages⟩, ?_, ?_, ?_, ?_, ?_⟩
  · rw [all]
    exact shown normal (by decide) (by decide)
  · exact entries quiet _ _ _ document (by decide) (by decide) (.named rfl rfl usable) loaded
  · rw [← zeroed]
    exact entries normal _ _ _ document (by decide) (by decide) (.named rfl rfl usable) loaded
  · refine (entries verbose _ _ _ document (by decide) (by decide) (.named rfl rfl usable)
      loaded).trans ?_
    decide +kernel
  · obtain ⟨warnings, -, handled⟩ := passes (Record.ofCells [['1'], "=FOO()".toList])
    rw [warnings, handled ⟨#[1, 0]⟩ (by decide +kernel)]
    decide +kernel

end FlatSheet.CommandLine
