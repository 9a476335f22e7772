import FlatSheet.FileSystem.Tree
import FlatSheet.Proofs.CommandLine.Output

/-! # Runs on the output of a run

A run that shows one result to a line prints the texts of its results and nothing else. When these
are whole numbers, the output is a record whose results have the same texts. So a second run that
finds the output of the first one in its record file prints it again, unless it refuses the file:
formulas may print far longer numbers than they are long, and then the output is too large.
-/

namespace FlatSheet

private theorem Tree.byteCount_append (first second : Text) :
    byteCount (first ++ second) = byteCount first + byteCount second := by
  have sum (text : Text) : byteCount text = (text.map Char.utf8Size).sum := by
    rw [byteCount, List.sum_eq_foldl, List.foldl_map]
  rw [sum, sum, sum, List.map_append, List.sum_append]

namespace CommandLine

/-- A run that shows one result to a line and gets as far as its record file. -/
structure LineRun where
  files : FileSystem
  reader : Text → Except Text Settings
  default? : Option Text
  arguments : List Text
  options : Options
  path : Text
  settings : Settings
  read : Options.read arguments = .ok options
  named : options.file? = some path
  resolved : (if options.noConfig then { settings := .ok {}, warning? := none }
    else Settings.resolve files reader options.config? default?).settings = .ok settings
  lines : (options.override settings).style = .lines

namespace LineRun

/-- What the run leaves. -/
def outcome (run : LineRun) : Outcome :=
  CommandLine.run run.files run.reader run.default? run.arguments

/-- Whether the record file needs its extension. -/
def requiresExtension (run : LineRun) : Bool :=
  (run.options.override run.settings).requireExtension

/-- The document of the run. -/
def load (run : LineRun) : Except LoadFault Document :=
  Document.load run.files run.path run.requiresExtension

/-- Before the record file there are only warnings about the settings. -/
theorem exists_outcome_eq (run : LineRun) : ∃ messages, run.outcome =
    (evaluateFile run.files run.options.verbosity (run.options.override run.settings)
      run.path).after messages := by
  rw [outcome, CommandLine.run, run.read]
  simp only [run.named, runFile, run.resolved]
  exact ⟨_, rfl⟩

/-- The run prints the texts of the results of its document. -/
theorem outcome_of_load (run : LineRun) {document : Document} {results : Results}
    (loaded : run.load = .ok document) (compiled : document.record.compile = .ok results) :
    run.outcome.succeeded = true ∧ run.outcome.output = renderLines results.lines := by
  obtain ⟨succeeded, printed⟩ :=
    evaluateFile_of_load (run.options.override run.settings) loaded compiled run.options.verbosity
  obtain ⟨messages, left⟩ := run.exists_outcome_eq
  rw [run.lines] at printed
  rw [left, Outcome.output, Outcome.after]
  exact ⟨succeeded, congrArg renderLines printed⟩

/-- A run on the lines of whole numbers prints these lines. -/
theorem outcome_of_readText (run : LineRun) {results : Results} (whole : results.AllWhole)
    (nonempty : results.lines ≠ [])
    (accepted : run.requiresExtension = true → Document.hasRecordExtension run.path = true)
    (held : Document.readText run.files run.path = .ok (renderLines results.lines)) :
    run.outcome.succeeded = true ∧ run.outcome.output = renderLines results.lines := by
  have read := Record.ofText_renderLines (Results.encodes_of_mem_lines whole) nonempty
  have loaded := Document.load_of_readText accepted held read
  have printed := run.outcome_of_load loaded (Record.compile_lines whole)
  rwa [Results.lines_unsigned] at printed

/-- A run on a record file beyond the limit fails. -/
theorem fails_of_large (run : LineRun) {size : ℕ} (present : run.files.size run.path = .ok size)
    (large : 16777216 < size) : run.outcome.Fails := by
  obtain ⟨messages, left⟩ := run.exists_outcome_eq
  rw [left]
  refine Outcome.Fails.after ?_ messages
  rcases exists_load_or_fails_evaluateFile run.files run.options.verbosity
    (run.options.override run.settings) run.path with ⟨document, results, loaded, -⟩ | fails
  · cases (Document.load_eq_iff _).mp loaded with
    | document accepted present' fits read nonempty =>
      obtain rfl := Except.ok.inj (present.symm.trans present')
      exact absurd fits (Nat.not_le_of_gt large)
  · exact fails

end LineRun

/-- A run with `--lines` on a record file that holds a text. -/
def LineRun.onText (text : Text) : LineRun where
  files := { size := fun _ => .ok (Tree.byteCount text), read := fun _ => .ok text }
  reader := Settings.parse
  default? := none
  arguments := ["--lines".toList, "a.csv".toList]
  options := { file? := some "a.csv".toList, style? := some .lines }
  path := "a.csv".toList
  settings := {}
  read := rfl
  named := rfl
  resolved := rfl
  lines := rfl

/-- The sum of the first cell alone is its number. -/
theorem valueOf_sum_first {record : Record} {value : Float}
    (first : record.numberAt? 0 = some value) (alone : Binary64.sum [value] = value) :
    record.valueOf "=SUM(A1)".toList = .ok value := by
  have classified : Content.classify "=SUM(A1)".toList =
      .ok (.formula .sum (.single "A1".toList)) := rfl
  have resolved : Reference.resolve "A1".toList = .ok ⟨0, 1⟩ := by decide +kernel
  have read := (record.valueAt_eq_ok_iff_of_resolve resolved value).mpr first
  rw [Record.valueOf, classified]
  change record.evaluate (.formula .sum (.single "A1".toList)) = _
  rw [Record.evaluate_formula record .sum _ (absurd · (by decide)), Record.operands, read]
  exact congrArg Except.ok alone

/-- A cell and formulas that only read it. -/
def echoes (cell : Text) (count : ℕ) : List Text := cell :: List.replicate count "=SUM(A1)".toList

/-- Every cell has the value of the first one. -/
theorem compile_echoes {cell : Text} {value : Float}
    (literal : Content.classify cell = .ok (.literal value))
    (parsed : Number.parse? cell = some value) (alone : Binary64.sum [value] = value) (count : ℕ) :
    (Record.ofCells (echoes cell count)).compile =
      .ok { values := (List.replicate (count + 1) value).toArray } := by
  have listed : (Record.ofCells (echoes cell count)).cells.toList = echoes cell count := rfl
  have first : (Record.ofCells (echoes cell count)).cell? 0 = some cell := rfl
  rw [Record.compile_eq_mapM, listed]
  generalize Record.ofCells (echoes cell count) = record at first
  have here : record.valueOf cell = .ok value := by
    rw [Record.valueOf, literal]
    rfl
  have later : record.valueOf "=SUM(A1)".toList = .ok value :=
    valueOf_sum_first ((Record.numberAt?_eq_some_iff ..).mpr ⟨cell, first, parsed⟩) alone
  have values : (echoes cell count).mapM record.valueOf = .ok (List.replicate (count + 1) value) := by
    rw [Traversal.mapM_eq_ok_iff, echoes, List.map_cons, List.map_replicate, List.map_replicate,
      List.replicate_succ, here, later]
  rw [values]
  exact congrArg Except.ok ((Results.eq_empty_append_iff ..).mpr rfl)

theorem byteCount_renderLines_cons (line : Text) (rest : List Text) :
    Tree.byteCount (renderLines (line :: rest)) =
      Tree.byteCount line + 1 + Tree.byteCount (renderLines rest) := by
  rw [renderLines_cons, ← List.singleton_append, Tree.byteCount_append, Tree.byteCount_append,
    ← Nat.add_assoc]
  rfl

private theorem byteCount_renderLines_replicate (line : Text) (count : ℕ) :
    Tree.byteCount (renderLines (List.replicate count line)) =
      count * (Tree.byteCount line + 1) := by
  induction count with
  | zero =>
    rw [Nat.zero_mul]
    rfl
  | succ count ih =>
    rw [List.replicate_succ, byteCount_renderLines_cons, ih, Nat.succ_mul, Nat.add_comm]

/-- A one and 308 zeros. -/
def wide : Text := '1' :: List.replicate 308 '0'

private theorem encodes_of_all {cell : Text} (nonempty : cell ≠ [])
    (plain : (cell.all fun char => !Tokens.isSeparator char && char != '"') = true) :
    Encodes cell cell := by
  simp only [List.all_eq_true, Bool.and_eq_true, Bool.not_eq_true', bne_iff_ne] at plain
  exact .bare nonempty (fun char member => (plain char member).1)
    fun quote => (plain '"' quote).2 rfl

private theorem encodes_of_mem_echoes_wide (count : ℕ) :
    ∀ cell ∈ echoes wide count, Encodes cell cell := by
  intro cell member
  rcases List.mem_cons.mp member with rfl | repeated
  · exact encodes_of_all (List.cons_ne_nil _ _) (by decide +kernel)
  · rw [List.eq_of_mem_replicate repeated]
    exact encodes_of_all (List.cons_ne_nil _ _) (by decide)

/-- A run on a wide number and its echoes prints the number once for each cell. -/
theorem LineRun.outcome_echoes_wide {count : ℕ} (fits : 310 + count * 9 ≤ 16777216) :
    let run := LineRun.onText (renderLines (echoes wide count))
    (∃ document results, run.load = .ok document ∧ document.record.compile = .ok results ∧
      results.AllWhole) ∧
      run.files.size run.path = .ok (310 + count * 9) ∧
      Tree.byteCount run.outcome.output = (count + 1) * 310 := by
  intro run
  have size : Tree.byteCount (renderLines (echoes wide count)) = 310 + count * 9 := by
    have first : Tree.byteCount wide = 309 := by decide +kernel
    have later : Tree.byteCount "=SUM(A1)".toList = 8 := by decide
    rw [echoes, byteCount_renderLines_cons, byteCount_renderLines_replicate, first, later]
  have read := Record.ofText_renderLines (encodes_of_mem_echoes_wide count) (List.cons_ne_nil _ _)
  have held : Document.readText run.files run.path = .ok (renderLines (echoes wide count)) :=
    Document.readText_of_fits rfl (size.trans_le fits)
  have loaded : run.load = _ := Document.load_of_readText (fun _ => rfl) held read
  have literal : Content.classify wide = .ok (.literal 1e308) := by decide +kernel
  have parsed : Number.parse? wide = some 1e308 := by decide +kernel
  have compiled := compile_echoes literal parsed (by decide +kernel) count
  have whole : Binary64.IsWhole 1e308 := by decide +kernel
  have shown : Tree.byteCount (Number.display 1e308) = 309 := by decide +kernel
  refine ⟨⟨_, _, loaded, compiled, fun value member => ?_⟩, congrArg Except.ok size, ?_⟩
  · rw [List.mem_toArray] at member
    rwa [List.eq_of_mem_replicate member]
  · rw [(run.outcome_of_load loaded compiled).2, Results.lines, List.map_replicate,
      byteCount_renderLines_replicate, shown]

/-- Whole numbers that are printed with any separators around them are a record again. Its pass
gives the same numbers, with zeros for negative zeros, and these are printed as before. In
particular the lines that a run prints are a record with the same lines. A run that finds them in
its record file prints them again, if the file is not beyond the limit and has the extension where
it needs one. -/
theorem whole_numbers_reprinted :
    (∀ (record : Record) (results : Results), record.compile = .ok results → 0 < results.size →
      results.AllWhole →
      (∀ spacing : Tokens.Spacing, spacing.gaps.length + 1 = results.size →
        ∃ document again, Document.ofText (spacing.render results.lines) = .ok document ∧
          document.record.compile = .ok again ∧
          again.values = results.values.map Binary64.unsignedZero ∧
          again.lines = results.lines) ∧
      ∃ document again, Document.ofText (renderLines results.lines) = .ok document ∧
        document.record.compile = .ok again ∧
        renderLines again.lines = renderLines results.lines) ∧
    ∀ (first second : LineRun) (document : Document) (results : Results) (size : ℕ),
      first.load = .ok document → document.record.compile = .ok results → results.AllWhole →
      (second.requiresExtension = true → Document.hasRecordExtension second.path = true) →
      second.files.size second.path = .ok size → size ≤ 16777216 →
      second.files.read second.path = .ok first.outcome.output →
      first.outcome.output = renderLines results.lines ∧
        second.outcome.succeeded = true ∧ second.outcome.output = first.outcome.output := by
  constructor
  · intro record results _ nonempty whole
    have compiled := Record.compile_lines whole
    have bare := Results.encodes_of_mem_lines whole
    constructor
    · intro spacing fits
      refine ⟨⟨Record.ofCells results.lines, none⟩, results.unsigned, ?_, compiled, rfl,
        results.lines_unsigned⟩
      rw [Document.ofText, Record.ofText_render bare spacing (by rwa [results.length_lines])]
      rfl
    · refine ⟨⟨Record.ofCells results.lines, none⟩, results.unsigned, ?_, compiled, ?_⟩
      · rw [Document.ofText, Record.ofText_renderLines bare (results.lines_ne_nil nonempty)]
        rfl
      · rw [results.lines_unsigned]
  · intro first second document results size loaded compiled whole accepted present fits read
    obtain ⟨-, printed⟩ := first.outcome_of_load loaded compiled
    obtain ⟨-, text, -, cells⟩ := Document.exists_ofText_of_load loaded
    have nonempty : 0 < results.size := by
      rw [Record.compile_size compiled]
      exact Record.size_pos_of_ofText cells
    have held := Document.readText_of_fits present fits
    rw [read, printed] at held
    rw [printed]
    exact ⟨rfl, second.outcome_of_readText whole (results.lines_ne_nil nonempty) accepted held⟩

/-- A negative zero and a number with more digits than it can hold, on lines and between other
separators. -/
theorem whole_numbers_reprinted_wide :
    let output := "0\n12345678901234567168\n".toList
    (LineRun.onText "-0,12345678901234567890".toList).outcome.output = output ∧
      (LineRun.onText output).outcome.succeeded = true ∧
      (LineRun.onText output).outcome.output = output ∧
      ∃ document again, Document.ofText ("0,12345678901234567168".toList) = .ok document ∧
        document.record.compile = .ok again ∧ again.values = #[0, 12345678901234567168] := by
  intro output
  let record := Record.ofCells ["-0".toList, "12345678901234567890".toList]
  let results : Results := ⟨#[-0, 12345678901234567168]⟩
  have compiled : record.compile = .ok results := by decide +kernel
  have whole : results.AllWhole := by decide +kernel
  have printed : (LineRun.onText "-0,12345678901234567890".toList).outcome.output = output := by
    decide +kernel
  obtain ⟨reprinted, rerun⟩ := whole_numbers_reprinted
  obtain ⟨document, again, read, compiledAgain, values, -⟩ :=
    (reprinted record results compiled (by decide) whole).1 (Tokens.Spacing.commas 1) rfl
  obtain ⟨-, succeeded, same⟩ := rerun (.onText "-0,12345678901234567890".toList) (.onText output)
    ⟨record, some "a.csv".toList⟩ results 23 rfl compiled whole (fun _ => rfl) rfl (by decide)
    (congrArg Except.ok printed.symm)
  refine ⟨printed, succeeded, same.trans printed, document, again, ?_, compiledAgain, ?_⟩
  · have text : (Tokens.Spacing.commas 1).render results.lines =
        "0,12345678901234567168".toList := by decide +kernel
    rw [← text, read]
  · rw [values]
    decide +kernel

/-- Of a run on less than half a million bytes the output is beyond the limit, so a run that finds
it in its record file fails. A run on a small output fails too when the file has not the extension
that it needs. -/
theorem lines_beyond_limit_not_reprinted :
    let first := LineRun.onText (renderLines (echoes wide 54121))
    let second := LineRun.onText first.outcome.output
    let files : FileSystem :=
      { size := fun _ => .ok 4, read := fun _ => .ok "1\n2\n".toList }
    let named (name : String) := run files Settings.parse none ["--lines".toList, name.toList]
    (∃ document results, first.load = .ok document ∧ document.record.compile = .ok results ∧
      results.AllWhole) ∧
      first.files.size first.path = .ok 487399 ∧
      second.files.read second.path = .ok first.outcome.output ∧
      second.files.size second.path = .ok 16777820 ∧
      second.outcome.succeeded = false ∧ second.outcome.output ≠ first.outcome.output ∧
      (named "a.csv").output = "1\n2\n".toList ∧ (named "out.txt").output = [] := by
  intro first second files named
  have fits : 310 + 54121 * 9 ≤ 16777216 := by decide
  obtain ⟨reached, given, printed⟩ := LineRun.outcome_echoes_wide fits
  have present : second.files.size second.path = .ok 16777820 := congrArg Except.ok printed
  have fails := second.fails_of_large present (by decide)
  refine ⟨reached, given, rfl, present, fails.failed, fun same => ?_, ?_, ?_⟩
  · rw [fails.output] at same
    rw [← same] at printed
    exact absurd printed (by decide)
  · decide +kernel
  · decide +kernel

end CommandLine

end FlatSheet
