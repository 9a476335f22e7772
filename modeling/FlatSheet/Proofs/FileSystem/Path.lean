import FlatSheet.FileSystem.Path
import FlatSheet.Proofs.Text.Cutting

/-! # Final names and their extensions

The final name of a path stands between slashes like every step, and only steps that stay in the
same directory follow it. So slashes and single dots behind it do not count, and a path that ends at
a root, at a parent or nowhere has no final name. The extension is what follows the last dot of the
name, when that dot does not lead the name.
-/

namespace FlatSheet.Path

/-- A path cut where its final name stands: what precedes the name ends with a slash, and each step
that follows is empty or a single dot. -/
structure FinalName (path front name : Text) (trail : List Text) : Prop where
  split : path = front ++ (name ++ trail.flatMap ('/' :: ·))
  divided : ∀ char ∈ front.getLast?, char = '/'
  whole : '/' ∉ name
  proper : name ≠ [] ∧ name ≠ ['.'] ∧ name ≠ ['.', '.']
  staying : ∀ step ∈ trail, step = [] ∨ step = ['.']

private theorem stays_iff (step : Text) : stays step = true ↔ step = [] ∨ step = ['.'] := by
  simp [stays]

private theorem steps_join {parts : List Text} (some : parts ≠ [])
    (whole : ∀ part ∈ parts, '/' ∉ part) :
    steps (Text.join ['/'] parts) = parts := List.splitOn_intercalate '/' whole some

theorem join_steps (path : Text) : Text.join ['/'] (steps path) = path :=
  List.intercalate_splitOn '/'

/-- The final name is the last step that does not stay, unless that leads to the parent. -/
theorem finalName?_eq_some_iff_steps (path name : Text) : finalName? path = some name ↔
    name ≠ ['.', '.'] ∧ stays name = false ∧
      ∃ before after, steps path = before ++ name :: after ∧ ∀ step ∈ after, stays step = true := by
  have found : finalName? path = some name ↔ name ≠ ['.', '.'] ∧
      (steps path).reverse.find? (fun step => !stays step) = some name := by
    rw [finalName?, List.getLast?_filter]
    cases (steps path).reverse.find? fun step => !stays step with
    | none => simp
    | some last =>
      simp only [Option.ite_none_left_eq_some, beq_iff_eq, Option.some.injEq]
      constructor
      · rintro ⟨proper, rfl⟩
        exact ⟨proper, rfl⟩
      · rintro ⟨proper, rfl⟩
        exact ⟨proper, rfl⟩
  rw [found, List.find?_eq_some_iff_append, Bool.not_eq_true']
  constructor
  · rintro ⟨proper, moves, after, before, split, staying⟩
    refine ⟨proper, moves, before.reverse, after.reverse, ?_, ?_⟩
    · rw [← List.reverse_reverse (steps path), split]
      simp
    · simpa using staying
  · rintro ⟨proper, moves, before, after, split, staying⟩
    refine ⟨proper, moves, after.reverse, before.reverse, ?_, ?_⟩
    · rw [split]
      simp
    · simpa using staying

/-- What ends with a slash is whole steps with a slash behind each. -/
theorem exists_steps_of_divided {front : Text} (divided : ∀ char ∈ front.getLast?, char = '/') :
    ∃ before : List Text, (∀ step ∈ before, '/' ∉ step) ∧ front = before.flatMap (· ++ ['/']) := by
  rcases List.eq_nil_or_concat front with rfl | ⟨inner, last, rfl⟩
  · exact ⟨[], by simp, rfl⟩
  · obtain rfl : last = '/' := divided last (by simp)
    refine ⟨steps inner, fun step member => (Text.mem_splitOn member).1, ?_⟩
    have some : steps inner ≠ [] := List.splitOn_ne_nil '/' inner
    rw [Text.flatMap_append_separator ['/'] some, join_steps, List.concat_eq_append]

private theorem divided_flatMap (before : List Text) :
    ∀ char ∈ (before.flatMap (· ++ ['/'])).getLast?, char = '/' := by
  intro char last
  by_cases none : before = []
  · rw [none] at last
    contradiction
  · rw [Text.getLast?_flatMap_append_mark '/' none] at last
    exact (Option.some.inj last).symm

private theorem finalName?_eq_some_iff (path name : Text) : finalName? path = some name ↔
    ∃ front trail, FinalName path front name trail := by
  rw [finalName?_eq_some_iff_steps]
  constructor
  · rintro ⟨parent, moves, before, after, split, staying⟩
    have named : name ∈ steps path := by simp [split]
    rw [← Bool.not_eq_true, stays_iff, not_or] at moves
    refine ⟨before.flatMap (· ++ ['/']), after, ?_, divided_flatMap before,
      (Text.mem_splitOn named).1, ⟨moves.1, moves.2, parent⟩,
      fun step member => (stays_iff step).mp (staying step member)⟩
    rw [← join_steps path, split, Text.join_append_cons, Text.join_cons]
    rfl
  · rintro ⟨front, trail, final⟩
    obtain ⟨before, whole, ended⟩ := exists_steps_of_divided final.divided
    obtain ⟨nonempty, moves, parent⟩ := final.proper
    refine ⟨parent, ?_, before, trail, ?_, fun step member =>
      (stays_iff step).mpr (final.staying step member)⟩
    · rw [← Bool.not_eq_true, stays_iff, not_or]
      exact ⟨nonempty, moves⟩
    · have joined : path = Text.join ['/'] (before ++ name :: trail) := by
        rw [final.split, ended, Text.join_append_cons, Text.join_cons]
        rfl
      rw [joined, steps_join (by simp)]
      intro step member
      rcases List.mem_append.mp member with early | late
      · exact whole step early
      · rcases List.mem_cons.mp late with rfl | later
        · exact final.whole
        · rcases final.staying step later with rfl | rfl <;> decide

/-- The last dot of a name divides it, unless nothing precedes that dot. -/
theorem extensionOfName?_append {stem extension : Text} (some : stem ≠ [])
    (absent : '.' ∉ extension) :
    extensionOfName? (stem ++ '.' :: extension) = Option.some extension := by
  rw [extensionOfName?, Text.reverse_cut,
    Text.dropWhile_append_of_ended (Text.ne_of_mem_reverse absent) (by simp),
    Text.takeWhile_append_of_ended (Text.ne_of_mem_reverse absent) (by simp), List.reverse_reverse]
  obtain ⟨last, others, same⟩ := List.exists_cons_of_ne_nil (mt List.reverse_eq_nil_iff.mp some)
  rw [same]
  rfl

private theorem extensionOfName?_eq_some_iff (name extension : Text) :
    extensionOfName? name = some extension ↔
      ∃ stem, stem ≠ [] ∧ name = stem ++ '.' :: extension ∧ '.' ∉ extension := by
  constructor
  · intro found
    by_cases dot : '.' ∈ name
    · obtain ⟨stem, behind, rfl, absent⟩ := Text.exists_last_of_mem dot
      have nonempty : stem ≠ [] := by
        rintro rfl
        rw [extensionOfName?, Text.reverse_cut,
          Text.dropWhile_append_of_ended (Text.ne_of_mem_reverse absent) (by simp)] at found
        contradiction
      rw [extensionOfName?_append nonempty absent] at found
      obtain rfl := Option.some.inj found
      exact ⟨stem, nonempty, rfl, absent⟩
    · rw [extensionOfName?, List.dropWhile_eq_nil_iff.mpr (Text.ne_of_mem_reverse dot)] at found
      contradiction
  · rintro ⟨stem, nonempty, rfl, absent⟩
    exact extensionOfName?_append nonempty absent

/-- The extension of a path is that of its final name. -/
theorem extension?_eq_some_iff (path extension : Text) : extension? path = some extension ↔
    ∃ front stem trail, FinalName path front (stem ++ '.' :: extension) trail ∧ stem ≠ [] ∧
      '.' ∉ extension := by
  rw [extension?, Option.bind_eq_some_iff]
  constructor
  · rintro ⟨name, named, found⟩
    obtain ⟨front, trail, final⟩ := (finalName?_eq_some_iff path name).mp named
    obtain ⟨stem, nonempty, rfl, absent⟩ := (extensionOfName?_eq_some_iff name extension).mp found
    exact ⟨front, stem, trail, final, nonempty, absent⟩
  · rintro ⟨front, stem, trail, final, nonempty, absent⟩
    exact ⟨_, (finalName?_eq_some_iff path _).mpr ⟨front, trail, final⟩,
      extensionOfName?_append nonempty absent⟩

end FlatSheet.Path
