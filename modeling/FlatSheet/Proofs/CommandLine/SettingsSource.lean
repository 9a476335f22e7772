import FlatSheet.Proofs.CommandLine.Words
import FlatSheet.Proofs.Traversal

/-! # Where the settings of a run come from

A settings file can be used when it is there, small enough, text, and accepted by the reader of its
text. The file that the user names has to be usable, and otherwise the run fails before it looks at
the record. The default file is optional: where there is none the settings have their defaults, and
one that cannot be used is passed over with a warning. A run that asks for no settings file reads
none at all. Whatever the settings are, the words of the command line win over them.
-/

namespace FlatSheet.CommandLine

/-- A settings file that can be used: at most 1048576 bytes of text that the reader accepts. -/
structure Usable (files : FileSystem) (reader : Text → Except Text Settings) (path : Text)
    (settings : Settings) : Prop where
  small : ∃ size ≤ 1048576, files.size path = .ok size
  accepted : ∃ text, files.read path = .ok text ∧ reader text = .ok settings

/-- The settings that options ask for, and the fault of a default file that is passed over. -/
inductive Resolves (files : FileSystem) (reader : Text → Except Text Settings)
    (default? : Option Text) (options : Options) : Settings → Option SettingsFault → Prop
  | disabled (off : options.noConfig = true) :
      Resolves files reader default? options {} none
  | named {path : Text} {settings : Settings} (on : options.noConfig = false)
      (named : options.config? = some path) (usable : Usable files reader path settings) :
      Resolves files reader default? options settings none
  | absent (on : options.noConfig = false) (unnamed : options.config? = none)
      (absent : ∀ path, default? = some path → files.has path = false) :
      Resolves files reader default? options {} none
  | byDefault {path : Text} {settings : Settings} (on : options.noConfig = false)
      (unnamed : options.config? = none) (place : default? = some path)
      (usable : Usable files reader path settings) :
      Resolves files reader default? options settings none
  | passedOver {path : Text} {fault : SettingsFault} (on : options.noConfig = false)
      (unnamed : options.config? = none) (place : default? = some path)
      (present : files.has path = true) (failed : Settings.load files reader path = .error fault) :
      Resolves files reader default? options {} (some fault)

section

variable {files others : FileSystem} {reader : Text → Except Text Settings} {default? : Option Text}
  {options : Options} {settings : Settings} {arguments : List Text} {path : Text}

theorem load_eq_ok_iff :
    Settings.load files reader path = .ok settings ↔ Usable files reader path settings := by
  rw [Settings.load]
  constructor
  · intro loaded
    split at loaded
    · contradiction
    · next size found =>
      split at loaded
      · contradiction
      · next small =>
        split at loaded
        · contradiction
        · next text read =>
          have accepted := (Traversal.mapError_eq_ok_iff ..).mp loaded
          exact ⟨⟨size, Nat.le_of_not_lt small, found⟩, text, read, accepted⟩
  · rintro ⟨⟨size, small, found⟩, text, read, accepted⟩
    simp only [found, Nat.not_lt_of_le small, Settings.maxBytes, if_false, read, accepted]
    rfl

/-- A file that cannot be used has a fault. -/
theorem exists_load_eq_error (unusable : ∀ settings, ¬Usable files reader path settings) :
    ∃ fault, Settings.load files reader path = .error fault := by
  cases loaded : Settings.load files reader path with
  | error fault => exact ⟨fault, rfl⟩
  | ok settings => exact absurd (load_eq_ok_iff.mp loaded) (unusable settings)

private theorem has_of_usable (usable : Usable files reader path settings) :
    files.has path = true := by
  obtain ⟨⟨size, -, found⟩, -⟩ := usable
  rw [FileSystem.has, found]
  rfl

private theorem load_settings_congr (sameSize : others.size path = files.size path)
    (sameText : others.read path = files.read path) :
    Settings.load others reader path = Settings.load files reader path := by
  rw [Settings.load, Settings.load, sameSize, sameText]

@[simp] theorem after_nil (outcome : Outcome) : outcome.after [] = outcome := rfl

private theorem errors_after_warning (outcome : Outcome) (text : Text) :
    (outcome.after [.warning text]).errors = "Warning: ".toList ++ text ++ '\n' :: outcome.errors := by
  simp [Outcome.errors, Outcome.after, Message.render, renderLines]

/-- The settings of a run are resolved, unless the file that the user names cannot be used. -/
theorem exists_resolves_or_unusable (files : FileSystem) (reader : Text → Except Text Settings)
    (default? : Option Text) (options : Options) :
    (∃ settings warning?, Resolves files reader default? options settings warning?) ∨
      options.noConfig = false ∧ ∃ path, options.config? = some path ∧
        ∀ settings, ¬Usable files reader path settings := by
  cases off : options.noConfig with
  | true => exact .inl ⟨_, _, .disabled off⟩
  | false =>
    cases named : options.config? with
    | some path =>
      by_cases usable : ∃ settings, Usable files reader path settings
      · obtain ⟨settings, usable⟩ := usable
        exact .inl ⟨_, _, .named off named usable⟩
      · exact .inr ⟨rfl, path, rfl, fun settings usable' => usable ⟨settings, usable'⟩⟩
    | none =>
      left
      by_cases present : ∃ path, default? = some path ∧ files.has path = true
      · obtain ⟨path, place, present⟩ := present
        cases loaded : Settings.load files reader path with
        | ok settings => exact ⟨_, _, .byDefault off named place (load_eq_ok_iff.mp loaded)⟩
        | error fault => exact ⟨_, _, .passedOver off named place present loaded⟩
      · refine ⟨_, _, .absent off named fun path place => ?_⟩
        exact Bool.eq_false_iff.mpr fun has => present ⟨path, place, has⟩

/-- With its settings resolved a run is the evaluation of the record file, after a warning about a
default file that was passed over. -/
theorem runFile_of_resolves {warning? : Option SettingsFault}
    (resolves : Resolves files reader default? options settings warning?) (path : Text) :
    runFile files reader default? options path =
      (evaluateFile files options.verbosity (options.override settings) path).after
        (warning?.map settingsWarning).toList := by
  cases resolves with
  | disabled off => simp [runFile, off]
  | named on named usable =>
    simp [runFile, on, Settings.resolve, named, load_eq_ok_iff.mpr usable]
  | absent on unnamed absent =>
    cases default? with
    | none => simp [runFile, on, Settings.resolve, unnamed]
    | some place => simp [runFile, on, Settings.resolve, unnamed, absent place rfl]
  | byDefault on unnamed place usable =>
    simp [runFile, on, Settings.resolve, unnamed, place, has_of_usable usable,
      load_eq_ok_iff.mpr usable]
  | passedOver on unnamed place present failed =>
    simp [runFile, on, Settings.resolve, unnamed, place, present, failed]

/-- The evaluation asks about no file but the record. -/
theorem evaluateFile_congr (sameSize : others.size path = files.size path)
    (sameText : others.read path = files.read path) (verbosity : Verbosity) (settings : Settings) :
    evaluateFile others verbosity settings path = evaluateFile files verbosity settings path := by
  have texts : Document.readText others path = Document.readText files path := by
    rw [Document.readText, Document.readText, sameSize, sameText]
  rw [evaluateFile, evaluateFile, Document.load, Document.load, texts]

theorem run_of_resolves {warning? : Option SettingsFault} (free : StopFree (words arguments))
    (file : .file path ∈ words arguments)
    (resolves : Resolves files reader default? (optionsOf (words arguments)) settings warning?) :
    run files reader default? arguments =
      (evaluateFile files (optionsOf (words arguments)).verbosity
        ((optionsOf (words arguments)).override settings) path).after
          (warning?.map settingsWarning).toList := by
  rw [run_of_file free file, runFile_of_resolves resolves]

/-- A run stops at a settings file that is named and cannot be used. -/
theorem run_of_load_eq_error {place : Text} {fault : SettingsFault}
    (free : StopFree (words arguments)) (file : .file path ∈ words arguments)
    (on : (optionsOf (words arguments)).noConfig = false)
    (named : (optionsOf (words arguments)).config? = some place)
    (failed : Settings.load files reader place = .error fault) :
    run files reader default? arguments = .failure [.error fault.message] := by
  rw [run_of_file free file, runFile]
  simp [on, Settings.resolve, named, failed]

private theorem optionsOf_noConfig (words : List Word) :
    optionsOf (.noConfig :: words) = { optionsOf words with noConfig := true } := by
  simp [optionsOf, List.findSome?_cons, Word.file?, Word.config?, Word.style?, Word.verbosity?]

/-- A settings file that is named in front counts when no other one is named. -/
theorem optionsOf_config {words : List Word} (absent : ∀ path, .config path ∉ words) (path : Text) :
    optionsOf (.config path :: words) = { optionsOf words with config? := some path } := by
  have none := filterMap_eq_nil_of_notMem Word.eq_config_of_config? absent
  simp [optionsOf, none, List.findSome?_cons, Word.file?, Word.config?, Word.style?, Word.verbosity?]

/-- A run that is asked for no settings file in front evaluates the record file with the defaults. -/
theorem run_noConfig (free : StopFree (words arguments)) (file : .file path ∈ words arguments) :
    run files reader default? ("--no-config".toList :: arguments) =
      evaluateFile files (optionsOf (words arguments)).verbosity
        ((optionsOf (words arguments)).override {}) path := by
  have front : words ("--no-config".toList :: arguments) = .noConfig :: words arguments := rfl
  have again : StopFree (words ("--no-config".toList :: arguments)) := free.cons rfl rfl
  rw [run_of_file again (by rw [front]; exact List.mem_cons_of_mem _ file), front,
    optionsOf_noConfig, runFile_of_resolves (.disabled rfl)]
  rfl

/-- A run with a settings file that is named in front evaluates the record file with its settings. -/
theorem run_config {place : Text} (free : StopFree (words arguments))
    (file : .file path ∈ words arguments) (absent : ∀ place, .config place ∉ words arguments)
    (on : (optionsOf (words arguments)).noConfig = false)
    (usable : Usable files reader place settings) :
    run files reader default? ("-c".toList :: place :: arguments) =
      evaluateFile files (optionsOf (words arguments)).verbosity
        ((optionsOf (words arguments)).override settings) path := by
  have front : words ("-c".toList :: place :: arguments) = .config place :: words arguments := rfl
  have again : StopFree (words ("-c".toList :: place :: arguments)) := free.cons rfl rfl
  have named : Resolves files reader default?
      { optionsOf (words arguments) with config? := some place } settings none :=
    .named on rfl usable
  rw [run_of_file again (by rw [front]; exact List.mem_cons_of_mem _ file), front,
    optionsOf_config absent, runFile_of_resolves named]
  rfl

end

/-- A run on a record file takes its settings from the file that is named, from the default file, or
from nowhere. Without a settings file it does not depend on one. A default file that is missing
counts as none, one that cannot be used adds a warning, and one that can be used counts as named. A
named file that cannot be used ends the run without a look at the record. In all other cases the
settings are resolved, and the words on style and extension win over them. -/
theorem settings_sources (reader : Text → Except Text Settings) (arguments : List Text) (path : Text)
    (free : StopFree (words arguments)) (file : .file path ∈ words arguments) :
    (.noConfig ∈ words arguments → ∀ files others default? otherDefault? otherReader,
      others.size path = files.size path → others.read path = files.read path →
      run others otherReader otherDefault? arguments = run files reader default? arguments) ∧
    (.noConfig ∉ words arguments → (∀ place, .config place ∉ words arguments) → ∀ files default?,
      let plain := run files reader default? ("--no-config".toList :: arguments)
      let outcome := run files reader default? arguments
      ((∀ place, default? = some place → files.has place = false) → outcome = plain) ∧
      (∀ place, default? = some place → files.has place = true →
        (∀ settings, ¬Usable files reader place settings) →
        outcome.output = plain.output ∧ outcome.exitCode = plain.exitCode ∧
        ∃ text, outcome.messages = .warning text :: plain.messages ∧
          outcome.errors = "Warning: ".toList ++ text ++ '\n' :: plain.errors) ∧
      (∀ place settings, default? = some place → Usable files reader place settings →
        outcome = run files reader default? ("-c".toList :: place :: arguments))) ∧
    (.noConfig ∉ words arguments → ∀ place,
      ((words arguments).filterMap Word.config?).getLast? = some place → ∀ files default?,
      (∀ settings, ¬Usable files reader place settings) →
      (run files reader default? arguments).exitCode = 1 ∧
      (run files reader default? arguments).output = [] ∧
      ∀ others otherDefault?, others.size place = files.size place →
        others.read place = files.read place →
        run others reader otherDefault? arguments = run files reader default? arguments) ∧
    (∀ files default?,
      ((∃ settings warning?,
          Resolves files reader default? (optionsOf (words arguments)) settings warning?) ∨
        .noConfig ∉ words arguments ∧ ∃ place,
          ((words arguments).filterMap Word.config?).getLast? = some place ∧
          ∀ settings, ¬Usable files reader place settings) ∧
      ∀ settings warning?,
        Resolves files reader default? (optionsOf (words arguments)) settings warning? →
        run files reader default? arguments =
          (evaluateFile files (((words arguments).filterMap Word.verbosity?).getLast?.getD .normal)
            { style := ((words arguments).filterMap Word.style?).getLast?.getD settings.style
              requireExtension :=
                settings.requireExtension && !decide (.anyExtension ∈ words arguments) }
            path).after (warning?.map settingsWarning).toList) := by
  refine ⟨fun off => ?_, fun on unnamed files default? => ?_, fun on place named files default?
    unusable => ?_, fun files default? => ⟨?_, fun _ _ resolves => run_of_resolves free file resolves⟩⟩
  · intro files others default? otherDefault? otherReader sameSize sameText
    have disabled : (optionsOf (words arguments)).noConfig = true := decide_eq_true off
    rw [run_of_resolves free file (.disabled disabled),
      run_of_resolves free file (.disabled disabled), evaluateFile_congr sameSize sameText]
  · intro plain outcome
    have enabled : (optionsOf (words arguments)).noConfig = false := decide_eq_false on
    have missing := config?_optionsOf_eq_none unnamed
    have disabled : plain = _ := run_noConfig free file
    refine ⟨fun absent => ?_, fun place here present unusable => ?_,
      fun place settings here usable => ?_⟩
    · rw [disabled]
      exact run_of_resolves free file (.absent enabled missing absent)
    · obtain ⟨fault, failed⟩ := exists_load_eq_error unusable
      have warned : outcome = plain.after [settingsWarning fault] := by
        rw [disabled]
        exact run_of_resolves free file (.passedOver enabled missing here present failed)
      rw [warned]
      exact ⟨rfl, rfl, _, rfl, errors_after_warning plain _⟩
    · rw [run_config free file unnamed enabled usable]
      exact run_of_resolves free file (.byDefault enabled missing here usable)
  · have enabled : (optionsOf (words arguments)).noConfig = false := decide_eq_false on
    obtain ⟨fault, failed⟩ := exists_load_eq_error unusable
    rw [run_of_load_eq_error free file enabled named failed]
    refine ⟨rfl, rfl, fun others otherDefault? sameSize sameText => ?_⟩
    refine run_of_load_eq_error free file enabled named ?_
    rw [load_settings_congr sameSize sameText, failed]
  · refine (exists_resolves_or_unusable files reader default? _).imp_right ?_
    rintro ⟨enabled, place, named, unusable⟩
    exact ⟨of_decide_eq_false enabled, place, named, unusable⟩

/-- The settings in one file are refused and those in another one are not. As the default file the
one adds a warning and the other one counts as named. Named, the one ends the run. With no settings
file asked for, it does not matter that a file has no settings. -/
theorem settings_sources_refused :
    let held (record : Text) : FileSystem :=
      { size := fun _ => .ok 20
        read := fun path =>
          if path = "a.csv".toList then .ok record
          else if path = "good.toml".toList then .ok "output = \"lines\"".toList
          else .ok "colour = true".toList }
    let files := held "1 2".toList
    let good := "good.toml".toList
    let bad := "bad.toml".toList
    let plain := ["a.csv".toList]
    let without := ["--no-config".toList, "a.csv".toList]
    let naming (place : Text) := ["-c".toList, place, "a.csv".toList]
    (run files Settings.parse (some bad) plain).output = "[1, 2]\n".toList ∧
      (∃ text, (run files Settings.parse (some bad) plain).errors =
        "Warning: ".toList ++ text ++ '\n' :: (run files Settings.parse (some bad) without).errors) ∧
      run files Settings.parse (some good) plain =
        run files Settings.parse (some good) (naming good) ∧
      (run files Settings.parse (some good) (naming good)).output = "1\n2\n".toList ∧
      (run files Settings.parse none (naming bad)).exitCode = 1 ∧
      run (held "9".toList) Settings.parse none (naming bad) =
        run files Settings.parse none (naming bad) ∧
      run files Settings.parse none without = run files Settings.parse (some bad) without := by
  intro held files good bad plain without naming
  have unusable : ∀ settings, ¬Usable files Settings.parse bad settings := by
    intro settings usable
    have loaded : (Settings.load files Settings.parse bad).isOk = true := by
      rw [load_eq_ok_iff.mpr usable]
      rfl
    exact absurd loaded (by decide +kernel)
  have usable : Usable files Settings.parse good { style := .lines } := by
    refine load_eq_ok_iff.mp ?_
    decide +kernel
  have unnamed : ∀ place, .config place ∉ words plain := by
    intro place
    have only : words plain = [.file "a.csv".toList] := by decide
    rw [only, List.mem_singleton]
    exact Word.noConfusion
  obtain ⟨-, implicit, -, -⟩ :=
    settings_sources Settings.parse plain "a.csv".toList (by decide) (by decide)
  obtain ⟨-, warned, -⟩ := implicit (by decide) unnamed files (some bad)
  obtain ⟨output, -, text, -, errors⟩ := warned bad rfl rfl unusable
  obtain ⟨-, -, counted⟩ := implicit (by decide) unnamed files (some good)
  have named := counted good _ rfl usable
  obtain ⟨-, -, fatal, -⟩ :=
    settings_sources Settings.parse (naming bad) "a.csv".toList (by decide) (by decide)
  obtain ⟨one, -, unread⟩ := fatal (by decide) bad (by decide) files none unusable
  obtain ⟨disabled, -, -, -⟩ :=
    settings_sources Settings.parse without "a.csv".toList (by decide) (by decide)
  refine ⟨output.trans (by decide +kernel), ⟨text, errors⟩, named, by decide +kernel, one,
    unread (held "9".toList) none rfl (by decide +kernel), ?_⟩
  exact disabled (by decide) files files (some bad) none Settings.parse rfl rfl

end FlatSheet.CommandLine
