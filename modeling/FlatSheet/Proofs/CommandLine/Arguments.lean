import FlatSheet.FileSystem.Tree
import FlatSheet.Proofs.CommandLine.Words

/-! # What of the arguments matters

The first stop among the words decides alone what a run does: nothing before it counts, nothing
behind it is read, and no file is touched. Without a stop two lists of words that agree on six facts
give the same options. These are the file, the last settings file, the last style, the last verbosity
and the presence of the two other words. So the words may change their places freely, as long as no
two of them contradict each other.
-/

namespace FlatSheet.CommandLine

/-- The same in everything that a run without a stop looks at. -/
structure SameFacts (first second : List Word) : Prop where
  file : (first.filterMap Word.file?).head? = (second.filterMap Word.file?).head?
  config : (first.filterMap Word.config?).getLast? = (second.filterMap Word.config?).getLast?
  noConfig : Word.noConfig ∈ first ↔ Word.noConfig ∈ second
  style : (first.filterMap Word.style?).getLast? = (second.filterMap Word.style?).getLast?
  anyExtension : Word.anyExtension ∈ first ↔ Word.anyExtension ∈ second
  verbosity : (first.filterMap Word.verbosity?).getLast? =
    (second.filterMap Word.verbosity?).getLast?

/-- At most one word of each kind of which the last one wins. -/
structure Unconflicting (words : List Word) : Prop where
  config : (words.filterMap Word.config?).length ≤ 1
  style : (words.filterMap Word.style?).length ≤ 1
  verbosity : (words.filterMap Word.verbosity?).length ≤ 1

private theorem optionsOf_congr {first second : List Word} (same : SameFacts first second) :
    optionsOf first = optionsOf second := by
  simp only [optionsOf, same.file, same.config, same.noConfig, same.style, same.anyExtension,
    same.verbosity]

private theorem not_stopFree_iff (arguments : List Text) :
    ¬StopFree (words arguments) ↔ ∃ stop, FirstStop (words arguments) stop := by
  constructor
  · intro stopped
    exact (stopFree_or_exists_firstStop (words arguments)).resolve_left stopped
  · rintro ⟨stop, first⟩ free
    have read := read_of_stopFree free
    rw [read_of_firstStop first] at read
    contradiction

/-- Arguments behind the first stop do not count. Only a missing operand is a stop that more
arguments could mend. -/
theorem FirstStop.append {front : List Text} {stop : Stop} (first : FirstStop (words front) stop)
    (complete : stop ≠ .noOperand) (after : List Text) :
    FirstStop (words (front ++ after)) stop := by
  obtain ⟨before, word, rest, cut, free, stops⟩ := first
  rcases words_append front after with ⟨more, longer⟩ | ⟨start, more, dangling, longer⟩
  · exact ⟨before, word, rest ++ more, by simp [longer, cut], free, stops⟩
  · rw [cut] at dangling
    rcases List.eq_nil_or_concat rest with rfl | ⟨others, last, rfl⟩
    · obtain ⟨-, last⟩ := List.append_inj' dangling rfl
      obtain rfl := List.singleton_inj.mp last
      cases stops with
      | alone stops => exact absurd (Option.some.inj stops).symm complete
    · rw [List.concat_eq_append, ← List.cons_append, ← List.append_assoc] at dangling
      obtain ⟨rfl, -⟩ := List.append_inj' dangling rfl
      exact ⟨before, word, others ++ more, by simp [longer], free, stops⟩

private theorem eq_of_perm_of_length_le_one {α : Type} {first second : List α}
    (perm : first.Perm second)
    (one : second.length ≤ 1) : first = second := by
  match second, one with
  | [], _ => exact perm.eq_nil
  | [item], _ => exact List.perm_singleton.mp perm

private theorem StopFree.perm {first second : List Word} (free : StopFree first)
    (perm : second.Perm first) : StopFree second := by
  refine ⟨fun word member => free.unstopped word (perm.mem_iff.mp member), ?_⟩
  rw [(perm.filterMap Word.file?).length_eq]
  exact free.oneFile

private theorem sameFacts_of_perm {first second : List Word} (free : StopFree first)
    (single : Unconflicting first) (perm : second.Perm first) : SameFacts first second := by
  have same {α : Type} (kind? : Word → Option α) (one : (first.filterMap kind?).length ≤ 1) :
      second.filterMap kind? = first.filterMap kind? :=
    eq_of_perm_of_length_le_one (perm.filterMap kind?) one
  constructor
  · rw [same Word.file? free.oneFile]
  · rw [same Word.config? single.config]
  · exact perm.mem_iff.symm
  · rw [same Word.style? single.style]
  · exact perm.mem_iff.symm
  · rw [same Word.verbosity? single.verbosity]

private theorem run_congr {first second : List Text} (firstFree : StopFree (words first))
    (secondFree : StopFree (words second)) (same : SameFacts (words first) (words second))
    (files : FileSystem) (reader : Text → Except Text Settings) (default? : Option Text) :
    run files reader default? first = run files reader default? second := by
  rw [run, run, read_of_stopFree firstFree, read_of_stopFree secondFree, optionsOf_congr same]

/-- Arguments have a first stop or none. The first stop alone decides what a run leaves, whatever
stands before it, follows it or is found in files. Without a stop that depends on the files and on
six facts about the words, so words that do not contradict each other may stand in any order. -/
theorem first_stop_or_six_facts_decide :
    (∀ arguments, (∃ stop, FirstStop (words arguments) stop) ↔ ¬StopFree (words arguments)) ∧
    (∀ arguments stop, FirstStop (words arguments) stop →
      (∀ files reader default?, run files reader default? arguments = stopped stop) ∧
      (stop ≠ .noOperand → ∀ after files reader default?,
        run files reader default? (arguments ++ after) = stopped stop)) ∧
    (∀ first second, StopFree (words first) → StopFree (words second) →
      SameFacts (words first) (words second) → ∀ files reader default?,
        run files reader default? first = run files reader default? second) ∧
    (∀ first second, StopFree (words first) → Unconflicting (words first) →
      (words second).Perm (words first) → ∀ files reader default?,
        run files reader default? first = run files reader default? second) := by
  refine ⟨fun arguments => (not_stopFree_iff arguments).symm, ?_, ?_, ?_⟩
  · intro arguments stop first
    refine ⟨fun _ _ _ => run_of_firstStop first, fun complete after _ _ _ => ?_⟩
    exact run_of_firstStop (first.append complete after)
  · exact fun first second => run_congr
  · intro first second free single perm
    exact run_congr free (free.perm perm) (sameFacts_of_perm free single perm)

/-- An unknown option decides before the help behind it. A settings file that looks like the help is
an operand, and two other lists of arguments say the same about one run: the one repeats words, the
other has them in another order. -/
theorem first_stop_or_six_facts_decide_operand :
    let files := Tree.empty.files
    let repeated := ["-c", "--help", "--list", "-v", "a.csv", "--lines"].map String.toList
    let mended := ["a.csv", "--lines", "--verbose", "-c", "b", "-c", "--help"].map String.toList
    let plain := ["--config", "--help", "-v", "a.csv", "--lines"].map String.toList
    let moved := ["--lines", "a.csv", "-c", "--help", "-v"].map String.toList
    FirstStop (words ["-v".toList, "-x".toList]) (.unknownOption "-x".toList) ∧
      run files Settings.parse none ["-v".toList, "-x".toList, "--help".toList] =
        stopped (.unknownOption "-x".toList) ∧
      StopFree (words repeated) ∧ StopFree (words mended) ∧
      SameFacts (words repeated) (words mended) ∧
      run files Settings.parse none repeated = run files Settings.parse none mended ∧
      Unconflicting (words plain) ∧ (words moved).Perm (words plain) ∧
      run files Settings.parse none plain = run files Settings.parse none moved := by
  intro files repeated mended plain moved
  obtain ⟨-, stops, facts, order⟩ := first_stop_or_six_facts_decide
  have first : FirstStop (words ["-v".toList, "-x".toList]) (.unknownOption "-x".toList) :=
    ⟨[.verbosity .verbose], .unknown "-x".toList, [], rfl, by decide, .alone rfl⟩
  have free : StopFree (words repeated) := by decide
  have alsoFree : StopFree (words mended) := by decide
  have same : SameFacts (words repeated) (words mended) := by constructor <;> decide
  have single : Unconflicting (words plain) := by constructor <;> decide
  have perm : (words moved).Perm (words plain) := by decide
  exact ⟨first, (stops _ _ first).2 (by decide) ["--help".toList] files Settings.parse none,
    free, alsoFree, same, facts _ _ free alsoFree same files Settings.parse none, single, perm,
    order _ _ (by decide) single perm files Settings.parse none⟩

end FlatSheet.CommandLine
