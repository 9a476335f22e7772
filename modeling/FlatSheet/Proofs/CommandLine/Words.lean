import FlatSheet.CommandLine.Run
import Mathlib.Data.List.Perm.Basic
import Mathlib.Data.List.Induction

/-! # The words of a command line

A command line is read word by word: a word is one argument, or the flag of a settings file together
with the argument after it, whatever that looks like. Some words stop the reading. As long as none
does, the options say the same as the list of words: the file that is named, the last word of each
kind where a later one wins, and whether a word occurs that only needs to occur. So what a run does
is decided by its first stop alone, or else by six facts about its words.
-/

namespace FlatSheet.CommandLine

/-- What is read at once. -/
inductive Word
  | help
  | config (path : Text)
  | noOperand
  | noConfig
  | style (style : OutputStyle)
  | anyExtension
  | verbosity (verbosity : Verbosity)
  | unknown (argument : Text)
  | file (argument : Text)
  deriving DecidableEq, Repr

/-- Cuts the arguments into words. A flag that needs an operand takes the next argument as it is. -/
def words : List Text → List Word
  | [] => []
  | argument :: rest =>
    match flag? argument with
    | some .help => .help :: words rest
    | some .config =>
      match rest with
      | [] => [.noOperand]
      | path :: rest => .config path :: words rest
    | some .noConfig => .noConfig :: words rest
    | some (.style style) => .style style :: words rest
    | some .anyExtension => .anyExtension :: words rest
    | some (.verbosity verbosity) => .verbosity verbosity :: words rest
    | none =>
      if argument.head? = some '-' then .unknown argument :: words rest
      else .file argument :: words rest

/-- Arguments that follow add words. They also give an operand to a flag that is the last argument
and had none. -/
theorem words_append (front after : List Text) :
    (∃ more, words (front ++ after) = words front ++ more) ∨
      ∃ before more, words front = before ++ [.noOperand] ∧ words (front ++ after) = before ++ more := by
  have cons {word : Word} {rest : List Text} (ih : (∃ more, words (rest ++ after) = words rest ++ more) ∨
      ∃ before more, words rest = before ++ [.noOperand] ∧ words (rest ++ after) = before ++ more) :
      (∃ more, word :: words (rest ++ after) = word :: words rest ++ more) ∨
        ∃ before more, word :: words rest = before ++ [.noOperand] ∧
          word :: words (rest ++ after) = before ++ more := by
    rcases ih with ⟨more, longer⟩ | ⟨before, more, dangling, longer⟩
    · exact .inl ⟨more, by rw [longer]; rfl⟩
    · exact .inr ⟨word :: before, more, by rw [dangling]; rfl, by rw [longer]; rfl⟩
  fun_induction words front with
  | case1 => exact .inl ⟨words after, rfl⟩
  | case3 argument known => exact .inr ⟨[], _, rfl, rfl⟩
  | case4 argument known path rest ih =>
    rw [List.cons_append, List.cons_append, words.eq_def]
    simp only [known]
    exact cons ih
  | case2 _ rest known ih | case5 _ rest known ih | case6 _ rest _ known ih | case7 _ rest known ih
  | case8 _ rest _ known ih =>
    rw [List.cons_append, words.eq_def]
    simp only [known]
    exact cons ih
  | case9 _ rest known dash ih | case10 _ rest known dash ih =>
    rw [List.cons_append, words.eq_def]
    simp only [known, dash, if_true, if_false]
    exact cons ih

namespace Word

/-- The record file that a word names. -/
def file? : Word → Option Text
  | .file argument => some argument
  | _ => none

/-- The settings file that a word names. -/
def config? : Word → Option Text
  | .config path => some path
  | _ => none

/-- The style that a word asks for. -/
def style? : Word → Option OutputStyle
  | .style asked => some asked
  | _ => none

/-- The verbosity that a word asks for. -/
def verbosity? : Word → Option Verbosity
  | .verbosity asked => some asked
  | _ => none

/-- The stop at a word that stops the reading wherever it stands. -/
def stop? : Word → Option Stop
  | .help => some .help
  | .noOperand => some .noOperand
  | .unknown argument => some (.unknownOption argument)
  | _ => none

theorem eq_file_of_file? (word : Word) (path : Text) (named : word.file? = some path) :
    word = .file path := by
  cases word with
  | file argument => exact congrArg Word.file (Option.some.inj named)
  | _ => contradiction

theorem eq_config_of_config? (word : Word) (path : Text) (named : word.config? = some path) :
    word = .config path := by
  cases word with
  | config operand => exact congrArg Word.config (Option.some.inj named)
  | _ => contradiction

end Word

/-- The options that words give: the first file, the last of the words that win over earlier ones,
and whether the other two words occur. -/
def optionsOf (words : List Word) : Options where
  file? := (words.filterMap Word.file?).head?
  config? := (words.filterMap Word.config?).getLast?
  noConfig := decide (.noConfig ∈ words)
  style? := (words.filterMap Word.style?).getLast?
  anyExtension := decide (.anyExtension ∈ words)
  verbosity := (words.filterMap Word.verbosity?).getLast?.getD .normal

/-- Words that carry nothing of a kind may be left out. -/
theorem filterMap_filter_of_none {α : Type} {kind? : Word → Option α} {kept : Word → Bool}
    (other : ∀ word, kept word = false → kind? word = none) (words : List Word) :
    (words.filter kept).filterMap kind? = words.filterMap kind? := by
  rw [List.filterMap_filter]
  refine List.filterMap_congr fun word _ => ?_
  cases keeps : kept word with
  | true => rfl
  | false => exact (other word keeps).symm

/-- No word stops the reading, and no file follows another one. -/
structure StopFree (words : List Word) : Prop where
  unstopped : ∀ word ∈ words, word.stop? = none
  oneFile : (words.filterMap Word.file?).length ≤ 1

instance (words : List Word) : Decidable (StopFree words) :=
  decidable_of_iff ((∀ word ∈ words, word.stop? = none) ∧
      (words.filterMap Word.file?).length ≤ 1)
    ⟨fun ⟨unstopped, oneFile⟩ => ⟨unstopped, oneFile⟩,
      fun ⟨unstopped, oneFile⟩ => ⟨unstopped, oneFile⟩⟩

/-- A word stops the reading of what comes after the words before it. -/
inductive StopsAfter (before : List Word) : Word → Stop → Prop
  | alone {word : Word} {stop : Stop} (stops : word.stop? = some stop) :
      StopsAfter before word stop
  | secondFile {first argument : Text} (earlier : .file first ∈ before) :
      StopsAfter before (.file argument) (.secondFile argument)

/-- The first stop in a list of words. -/
def FirstStop (words : List Word) (stop : Stop) : Prop :=
  ∃ before word after, words = before ++ word :: after ∧ StopFree before ∧
    StopsAfter before word stop

private theorem file?_optionsOf {words : List Word} (free : StopFree words) {path : Text}
    (member : .file path ∈ words) : (optionsOf words).file? = some path := by
  have named : path ∈ words.filterMap Word.file? := List.mem_filterMap.mpr ⟨_, member, rfl⟩
  have one := free.oneFile
  rw [optionsOf]
  match words.filterMap Word.file?, named, one with
  | [first], named, _ => rw [List.mem_singleton.mp named]; rfl

/-- Where none of the words that carry something occurs, nothing is carried. -/
theorem filterMap_eq_nil_of_notMem {words : List Word} {carried? : Word → Option Text}
    {carrier : Text → Word} (carries : ∀ word path, carried? word = some path → word = carrier path)
    (absent : ∀ path, carrier path ∉ words) : words.filterMap carried? = [] := by
  rw [List.filterMap_eq_nil_iff]
  intro word member
  rw [Option.eq_none_iff_forall_not_mem]
  intro path carried
  exact absent path (carries word path carried ▸ member)

private theorem file?_optionsOf_eq_none {words : List Word} (absent : ∀ path, .file path ∉ words) :
    (optionsOf words).file? = none := by
  simp [optionsOf, filterMap_eq_nil_of_notMem Word.eq_file_of_file? absent]

theorem config?_optionsOf_eq_none {words : List Word} (absent : ∀ path, .config path ∉ words) :
    (optionsOf words).config? = none := by
  simp [optionsOf, filterMap_eq_nil_of_notMem Word.eq_config_of_config? absent]

private theorem stopFree_nil : StopFree [] := ⟨by simp, by simp⟩

private theorem StopFree.of_append {before after : List Word} (free : StopFree (before ++ after)) :
    StopFree before := by
  refine ⟨fun word member => free.unstopped word (List.mem_append_left after member), ?_⟩
  have one := free.oneFile
  rw [List.filterMap_append, List.length_append] at one
  omega

/-- A word that is neither a stop nor a file may be put in front. -/
theorem StopFree.cons {word : Word} {words : List Word} (free : StopFree words)
    (unstopped : word.stop? = none) (unnamed : word.file? = none) : StopFree (word :: words) := by
  refine ⟨List.forall_mem_cons.mpr ⟨unstopped, free.unstopped⟩, ?_⟩
  rw [List.filterMap_cons_none unnamed]
  exact free.oneFile

/-- A list of words goes on without a stop, or the next word is the first stop. -/
theorem StopFree.concat {before : List Word} (free : StopFree before) (word : Word) :
    StopFree (before ++ [word]) ∨ ∃ stop, StopsAfter before word stop := by
  cases alone : word.stop? with
  | some stop => exact .inr ⟨stop, .alone alone⟩
  | none =>
    have unstopped : ∀ other ∈ before ++ [word], other.stop? = none := by
      intro other member
      rcases List.mem_append.mp member with earlier | last
      · exact free.unstopped other earlier
      · rw [List.mem_singleton.mp last, alone]
    by_cases second : (∃ argument, word = .file argument) ∧ ∃ first, Word.file first ∈ before
    · obtain ⟨⟨argument, rfl⟩, first, earlier⟩ := second
      exact .inr ⟨_, .secondFile earlier⟩
    · refine .inl ⟨unstopped, ?_⟩
      rw [List.filterMap_append, List.length_append]
      cases named : word.file? with
      | none => simpa [named] using free.oneFile
      | some argument =>
        obtain rfl := Word.eq_file_of_file? word argument named
        have none : before.filterMap Word.file? = [] :=
          filterMap_eq_nil_of_notMem Word.eq_file_of_file? fun first member =>
            second ⟨⟨argument, rfl⟩, first, member⟩
        simp [none, Word.file?]

/-- Words have a first stop unless they are free of stops. Words that follow the first stop leave it
where it is. -/
theorem stopFree_or_exists_firstStop (words : List Word) :
    StopFree words ∨ ∃ stop, FirstStop words stop := by
  induction words using List.reverseRecOn with
  | nil => exact .inl stopFree_nil
  | append_singleton before word ih =>
    rcases ih with free | ⟨stop, front, stopping, after, rfl, free, stops⟩
    · rcases free.concat word with longer | ⟨stop, stops⟩
      · exact .inl longer
      · exact .inr ⟨stop, before, word, [], rfl, free, stops⟩
    · exact .inr ⟨stop, front, stopping, after ++ [word], by simp, free, stops⟩

/-- Reads one word with the options so far. -/
def Options.readWord (options : Options) : Word → Except Stop Options
  | .help => .error .help
  | .config path => .ok { options with config? := some path }
  | .noOperand => .error .noOperand
  | .noConfig => .ok { options with noConfig := true }
  | .style style => .ok { options with style? := some style }
  | .anyExtension => .ok { options with anyExtension := true }
  | .verbosity verbosity => .ok { options with verbosity := verbosity }
  | .unknown argument => .error (.unknownOption argument)
  | .file argument =>
    match options.file? with
    | none => .ok { options with file? := some argument }
    | some _ => .error (.secondFile argument)

/-- Arguments are read as their words, one after the other. -/
theorem readFrom_eq_foldlM (options : Options) (arguments : List Text) :
    options.readFrom arguments = (words arguments).foldlM Options.readWord options := by
  fun_induction Options.readFrom options arguments with
  | case1 => rfl
  | case2 _ _ _ known | case3 _ _ known =>
    rw [words.eq_def]
    simp only [known]
    rfl
  | case4 _ _ known _ _ ih | case5 _ _ _ known ih | case6 _ _ _ _ known ih | case7 _ _ _ known ih
  | case8 _ _ _ _ known ih =>
    rw [words.eq_def]
    simp only [known]
    exact ih
  | case9 _ _ _ known dash =>
    rw [words.eq_def]
    simp only [known, dash]
    rfl
  | case10 _ _ _ known dash unnamed ih =>
    rw [words.eq_def]
    simp only [known, dash, if_false, List.foldlM_cons, Options.readWord, unnamed]
    exact ih
  | case11 _ _ _ known dash _ named =>
    rw [words.eq_def]
    simp only [known, dash, if_false, List.foldlM_cons, Options.readWord, named]
    rfl

/-- A word that is no stop adds what it says to the options. -/
theorem readWord_optionsOf {before : List Word} {word : Word} (free : StopFree (before ++ [word])) :
    (optionsOf before).readWord word = .ok (optionsOf (before ++ [word])) := by
  have unstopped := free.unstopped word (by simp)
  cases word with
  | help | noOperand | unknown argument => contradiction
  | config path | noConfig | style asked | anyExtension | verbosity asked =>
    simp [optionsOf, Options.readWord, Word.file?, Word.config?, Word.style?, Word.verbosity?]
  | file argument =>
    have one := free.oneFile
    rw [List.filterMap_append, List.length_append] at one
    have unnamed : before.filterMap Word.file? = [] := by
      rw [← List.length_eq_zero_iff]
      simpa [Word.file?] using one
    simp [optionsOf, Options.readWord, unnamed, Word.file?, Word.config?, Word.style?,
      Word.verbosity?]

private theorem readWord_of_stopsAfter {before : List Word} {word : Word} {stop : Stop}
    (stops : StopsAfter before word stop) : (optionsOf before).readWord word = .error stop := by
  cases stops with
  | alone stops =>
    cases word with
    | help | noOperand | unknown argument =>
      obtain rfl := Option.some.inj stops
      rfl
    | _ => contradiction
  | secondFile earlier =>
    have named : (before.filterMap Word.file?).head? ≠ none := by
      rw [ne_eq, List.head?_eq_none_iff, List.filterMap_eq_nil_iff]
      intro unnamed
      have missing := unnamed _ earlier
      contradiction
    obtain ⟨other, found⟩ := Option.ne_none_iff_exists'.mp named
    simp [optionsOf, Options.readWord, found]

/-- Words without a stop are read to their end. On the way the options are those of the words read
so far. -/
theorem foldlM_readWord (before after : List Word) (free : StopFree (before ++ after)) :
    after.foldlM Options.readWord (optionsOf before) = .ok (optionsOf (before ++ after)) := by
  induction after generalizing before with
  | nil => rw [List.append_nil]; rfl
  | cons word rest ih =>
    rw [List.append_cons] at free ⊢
    rw [List.foldlM_cons, readWord_optionsOf free.of_append]
    exact ih _ free

theorem read_of_stopFree {arguments : List Text} (free : StopFree (words arguments)) :
    Options.read arguments = .ok (optionsOf (words arguments)) := by
  rw [Options.read, readFrom_eq_foldlM]
  exact foldlM_readWord [] _ free

theorem read_of_firstStop {arguments : List Text} {stop : Stop}
    (first : FirstStop (words arguments) stop) : Options.read arguments = .error stop := by
  obtain ⟨before, word, after, cut, free, stops⟩ := first
  have reached : before.foldlM Options.readWord {} = .ok (optionsOf before) :=
    foldlM_readWord [] _ free
  rw [Options.read, readFrom_eq_foldlM, cut, List.foldlM_append, reached]
  change (word :: after).foldlM Options.readWord (optionsOf before) = _
  rw [List.foldlM_cons, readWord_of_stopsAfter stops]
  rfl

variable {files : FileSystem} {reader : Text → Except Text Settings} {default? : Option Text}
  {arguments : List Text}

theorem run_of_firstStop {stop : Stop} (first : FirstStop (words arguments) stop) :
    run files reader default? arguments = stopped stop := by
  rw [run, read_of_firstStop first]

/-- A run without a stop goes on with what its words say, if they name a record file. -/
theorem run_of_file (free : StopFree (words arguments)) {path : Text}
    (file : .file path ∈ words arguments) :
    run files reader default? arguments =
      runFile files reader default? (optionsOf (words arguments)) path := by
  rw [run, read_of_stopFree free]
  simp only [file?_optionsOf free file]

theorem run_of_no_file (free : StopFree (words arguments))
    (absent : ∀ path, .file path ∉ words arguments) :
    run files reader default? arguments =
      .failure [.error "missing FILE argument".toList, .usage] := by
  rw [run, read_of_stopFree free]
  simp only [file?_optionsOf_eq_none absent]

end FlatSheet.CommandLine
