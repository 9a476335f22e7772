import FlatSheet.Document
import FlatSheet.Proofs.FileSystem.Path
import FlatSheet.Proofs.Tokens.Spacing
import Mathlib.Data.List.Forall2

/-! # Loading documents

A document is loaded in stages, and the first stage that goes wrong is the one that is reported,
whatever else is wrong with the same path. Only the first stage looks at the name of the file, and
it can be left out. The stages after it do not know whether it was, so a path that passes it is
loaded in the same way without it. The name counts up to the case of its extension, and what counts
as its name is the last step of the path that does not stay where it is.
-/

namespace FlatSheet

private theorem toNat_toUpper (char : Char) : char.toUpper.toNat =
    if 97 ≤ char.toNat ∧ char.toNat ≤ 122 then char.toNat - 32 else char.toNat := by
  by_cases small : 97 ≤ char.toNat ∧ char.toNat ≤ 122
  · obtain ⟨valid, shifted⟩ : ∃ valid, char.toUpper = ⟨char.val + ('A'.val - 'a'.val), valid⟩ :=
      ⟨_, dif_pos small⟩
    have wrapped : char.toUpper.toNat = (char.toNat + ('A'.val - 'a'.val).toNat) % 2 ^ 32 := by
      rw [shifted]
      exact UInt32.toNat_add _ _
    have down : ('A'.val - 'a'.val).toNat = 4294967264 := by decide
    rw [wrapped, if_pos small, down]
    omega
  · have same : char.toUpper = char := dif_neg small
    rw [same, if_neg small]

/-- A character has the capital of a small letter when it is one of the two. -/
theorem toUpper_eq_toUpper_iff {letter : Char} (small : 97 ≤ letter.toNat ∧ letter.toNat ≤ 122)
    (char : Char) : char.toUpper = letter.toUpper ↔ char = letter ∨ char = letter.toUpper := by
  simp only [← Char.toNat_inj, toNat_toUpper, if_pos small]
  split <;> omega

/-- Two texts have the same capitals when each letter of the one is that of the other in either
case. -/
theorem Text.upper_eq_upper_iff {letters : Text}
    (small : ∀ letter ∈ letters, 97 ≤ letter.toNat ∧ letter.toNat ≤ 122) (text : Text) :
    text.upper = letters.upper ↔
      List.Forall₂ (fun char letter => char = letter ∨ char = letter.toUpper) text letters := by
  induction letters generalizing text with
  | nil => cases text <;> simp [upper]
  | cons letter letters ih =>
    obtain ⟨here, later⟩ := List.forall_mem_cons.mp small
    cases text with
    | nil => simp [upper]
    | cons char text =>
      rw [List.forall₂_cons, ← toUpper_eq_toUpper_iff here, ← ih later]
      exact List.cons_eq_cons

namespace Document

/-- The final name of a path is something with a dot and the letters `csv`, each in either case. -/
def NamesRecord (path : Text) : Prop :=
  ∃ front stem extension trail, Path.FinalName path front (stem ++ '.' :: extension) trail ∧
    stem ≠ [] ∧
    List.Forall₂ (fun char letter => char = letter ∨ char = letter.toUpper) extension "csv".toList

theorem hasRecordExtension_iff (path : Text) :
    hasRecordExtension path = true ↔ NamesRecord path := by
  have small : ∀ letter ∈ "csv".toList, 97 ≤ letter.toNat ∧ letter.toNat ≤ 122 := by simp
  have letters (extension : Text) : extension.upper = "CSV".toList ↔
      List.Forall₂ (fun char letter => char = letter ∨ char = letter.toUpper) extension
        "csv".toList := Text.upper_eq_upper_iff small extension
  have noDot {extension : Text} (spelled : extension.upper = "CSV".toList) : '.' ∉ extension := by
    intro dot
    have capital : '.' ∈ extension.upper := List.mem_map_of_mem dot
    exact absurd (spelled ▸ capital) (by decide)
  have found : hasRecordExtension path = true ↔
      ∃ extension, Path.extension? path = some extension ∧ extension.upper = "CSV".toList := by
    rw [hasRecordExtension]
    cases Path.extension? path <;> simp
  rw [found, NamesRecord]
  constructor
  · rintro ⟨extension, named, spelled⟩
    obtain ⟨front, stem, trail, final, nonempty, -⟩ := (Path.extension?_eq_some_iff ..).mp named
    exact ⟨front, stem, extension, trail, final, nonempty, (letters extension).mp spelled⟩
  · rintro ⟨front, stem, extension, trail, final, nonempty, spelled⟩
    have spelled := (letters extension).mpr spelled
    exact ⟨extension, (Path.extension?_eq_some_iff ..).mpr
      ⟨front, stem, trail, final, nonempty, noDot spelled⟩, spelled⟩

/-- How loading ends: with the first stage that goes wrong, or with the cells of the text. What is
too large and what is unreadable are both errors of reading the file. -/
inductive Loads (files : FileSystem) (path : Text) (checkExtension : Bool) :
    Except LoadFault Document → Prop
  | wrongExtension (required : checkExtension = true) (other : ¬NamesRecord path) :
    Loads files path checkExtension (.error (.wrongExtension path))
  | missing (accepted : checkExtension = true → NamesRecord path) {cause : FileFault}
    (absent : files.size path = .error cause) :
    Loads files path checkExtension (.error (.missing path))
  | tooLarge (accepted : checkExtension = true → NamesRecord path) {size : Nat}
    (present : files.size path = .ok size) (large : 16777216 < size) :
    Loads files path checkExtension (.error (.tooLarge path size))
  | unreadable (accepted : checkExtension = true → NamesRecord path) {size : Nat}
    (present : files.size path = .ok size) (fits : size ≤ 16777216) {cause : FileFault}
    (unread : files.read path = .error cause) :
    Loads files path checkExtension (.error (.unreadable cause))
  | noRecord (accepted : checkExtension = true → NamesRecord path) {size : Nat}
    (present : files.size path = .ok size) (fits : size ≤ 16777216) {text : Text}
    (read : files.read path = .ok text) (empty : Tokens.ofText text = []) :
    Loads files path checkExtension (.error (.noRecord .noCells))
  | document (accepted : checkExtension = true → NamesRecord path) {size : Nat}
    (present : files.size path = .ok size) (fits : size ≤ 16777216) {text : Text}
    (read : files.read path = .ok text) (nonempty : Tokens.ofText text ≠ []) :
    Loads files path checkExtension
      (.ok { record := .ofCells (Tokens.ofText text), path? := some path })

variable {files : FileSystem} {path : Text} {checkExtension : Bool}

/-- The extension counts only in the first stage. -/
theorem load_of_accepted (accepted : checkExtension = true → NamesRecord path) :
    load files path checkExtension = load files path false := by
  have passed : ¬(checkExtension && !hasRecordExtension path) = true := by
    rw [Bool.and_eq_true, Bool.not_eq_true', Bool.eq_false_iff, Ne, hasRecordExtension_iff]
    rintro ⟨required, other⟩
    exact other (accepted required)
  rw [load, if_neg passed]
  rfl

private theorem load_of_readText_error {fault : LoadFault}
    (held : readText files path = .error fault) :
    load files path false = .error fault := by
  change readText files path >>= _ = _
  rw [held]
  rfl

theorem load_of_readText_ok {text : Text} (held : readText files path = .ok text) :
    load files path false = match Record.ofText text with
      | .error fault => .error (.noRecord fault)
      | .ok record => .ok { record := record, path? := some path } := by
  change readText files path >>= _ = _
  rw [held]
  change (Record.ofText text).mapError _ >>= _ = _
  cases Record.ofText text <;> rfl

theorem readText_of_fits {size : Nat} (present : files.size path = .ok size)
    (fits : size ≤ 16777216) : readText files path = (files.read path).mapError .unreadable := by
  rw [readText, present]
  exact if_neg (not_lt_of_ge fits)

/-- Each way to end is the one that loading takes. -/
theorem load_eq_of_loads {outcome : Except LoadFault Document}
    (loads : Loads files path checkExtension outcome) :
    load files path checkExtension = outcome := by
  cases loads with
  | wrongExtension required other =>
    rw [← hasRecordExtension_iff, Bool.not_eq_true] at other
    rw [load, required, other]
    rfl
  | missing accepted absent =>
    rw [load_of_accepted accepted]
    refine load_of_readText_error ?_
    rw [readText, absent]
  | tooLarge accepted present large =>
    rw [load_of_accepted accepted]
    refine load_of_readText_error ?_
    rw [readText, present]
    exact if_pos large
  | unreadable accepted present fits unread =>
    rw [load_of_accepted accepted]
    refine load_of_readText_error ?_
    rw [readText_of_fits present fits, unread]
    rfl
  | @noRecord accepted size present fits text read empty =>
    have held : readText files path = .ok text := by
      rw [readText_of_fits present fits, read]
      rfl
    rw [load_of_accepted accepted, load_of_readText_ok held, Record.ofText, empty]
  | @document accepted size present fits text read nonempty =>
    have held : readText files path = .ok text := by
      rw [readText_of_fits present fits, read]
      rfl
    rw [load_of_accepted accepted, load_of_readText_ok held,
      (Record.ofText_eq_ok_iff ..).mpr ⟨nonempty, rfl⟩]

/-- One of the ways to end is taken. -/
theorem exists_loads (files : FileSystem) (path : Text) (checkExtension : Bool) :
    ∃ outcome, Loads files path checkExtension outcome := by
  by_cases accepted : checkExtension = true → NamesRecord path
  · cases present : files.size path with
    | error cause => exact ⟨_, .missing accepted present⟩
    | ok size =>
      rcases lt_or_ge 16777216 size with large | fits
      · exact ⟨_, .tooLarge accepted present large⟩
      · cases read : files.read path with
        | error cause => exact ⟨_, .unreadable accepted present fits read⟩
        | ok text =>
          by_cases empty : Tokens.ofText text = []
          · exact ⟨_, .noRecord accepted present fits read empty⟩
          · exact ⟨_, .document accepted present fits read empty⟩
  · obtain ⟨required, other⟩ := Classical.not_imp.mp accepted
    exact ⟨_, .wrongExtension required other⟩

theorem load_eq_iff (outcome : Except LoadFault Document) :
    load files path checkExtension = outcome ↔ Loads files path checkExtension outcome := by
  refine ⟨?_, load_eq_of_loads⟩
  rintro rfl
  obtain ⟨other, loads⟩ := exists_loads files path checkExtension
  rwa [load_eq_of_loads loads]

/-- A document that is loaded is the record of a text that is read. -/
theorem exists_ofText_of_load {document : Document}
    (loaded : load files path checkExtension = .ok document) :
    document.path? = some path ∧
      ∃ text, files.read path = .ok text ∧ Record.ofText text = .ok document.record := by
  cases (load_eq_iff _).mp loaded with
  | document accepted present fits read nonempty =>
    exact ⟨rfl, _, read, (Record.ofText_eq_ok_iff ..).mpr ⟨nonempty, rfl⟩⟩

/-- A file is loaded when its text is a record and its path has the extension, if it needs one. -/
theorem load_of_readText {text : Text} {record : Record}
    (accepted : checkExtension = true → hasRecordExtension path = true)
    (held : readText files path = .ok text) (read : Record.ofText text = .ok record) :
    load files path checkExtension = .ok { record := record, path? := some path } := by
  rw [load_of_accepted fun required => (hasRecordExtension_iff path).mp (accepted required),
    load_of_readText_ok held, read]

/-- Loading ends with the first cause that applies: a path without the extension, if that is
checked, a path that does not exist, a file above the limit, a text that cannot be read, and last a
text without cells. Otherwise it gives the document of the path with the cells of the text, whose
results are those of the text by itself. Without the check nothing else changes: what passes it is
loaded as without it, and without it no path has the wrong extension. -/
theorem load_in_order (files : FileSystem) (path : Text) :
    (∀ checkExtension outcome,
      load files path checkExtension = outcome ↔ Loads files path checkExtension outcome) ∧
    (∀ checkExtension document, load files path checkExtension = .ok document →
      document.path? = some path ∧ ∃ text, files.read path = .ok text ∧
        document.record.cells.toList = Tokens.ofText text ∧
        ∃ plain, ofText text = .ok plain ∧
          plain.record.compile = document.record.compile) ∧
    ((∀ other, load files path true ≠ .error (.wrongExtension other)) →
      load files path true = load files path false) ∧
    ∀ other, load files path false ≠ .error (.wrongExtension other) := by
  refine ⟨fun checkExtension outcome => load_eq_iff outcome, ?_, fun accepted => ?_,
    fun other refused => ?_⟩
  · intro checkExtension document loaded
    obtain ⟨named, text, read, spelled⟩ := exists_ofText_of_load loaded
    obtain ⟨nonempty, cells⟩ := (Record.ofText_eq_ok_iff ..).mp spelled
    refine ⟨named, text, read, by rw [← cells, Record.ofCells], ⟨document.record, none⟩, ?_, rfl⟩
    rw [ofText, spelled]
    rfl
  · refine load_of_accepted fun _ => ?_
    by_contra other
    exact accepted path (load_eq_of_loads (.wrongExtension rfl other))
  · cases (load_eq_iff _).mp refused with
    | wrongExtension required => contradiction

/-- A name that only a dot leads has no extension, even where there is no such file. One that two
dots lead has, and the check does not matter to it. -/
theorem load_in_order_dots :
    let files : FileSystem :=
      { size := fun path =>
          if path = "big.csv".toList then .ok 16777217
          else if path = "a/..CSV/.".toList then .ok 3 else .error .notFound
        read := fun path =>
          if path = "a/..CSV/.".toList then .ok "1 2".toList else .error .notText }
    load files ".csv".toList true = .error (.wrongExtension ".csv".toList) ∧
    ¬NamesRecord ".csv".toList ∧
    load files ".csv".toList false = .error (.missing ".csv".toList) ∧
    load files "big.csv".toList true = .error (.tooLarge "big.csv".toList 16777217) ∧
    load files "a/..CSV/.".toList true = load files "a/..CSV/.".toList false ∧
    ∃ document plain, load files "a/..CSV/.".toList true = .ok document ∧
      ofText "1 2".toList = .ok plain ∧ plain.record.compile = document.record.compile := by
  intro files
  have refused : load files ".csv".toList true = .error (.wrongExtension ".csv".toList) := by
    decide +kernel
  have loaded : load files "a/..CSV/.".toList true =
      .ok ⟨.ofCells ["1".toList, "2".toList], some "a/..CSV/.".toList⟩ := by decide +kernel
  obtain ⟨ends, -⟩ := load_in_order files ".csv".toList
  obtain ⟨-, record, same, -⟩ := load_in_order files "a/..CSV/.".toList
  have other : ¬NamesRecord ".csv".toList := by
    cases (ends _ _).mp refused with
    | wrongExtension required other => exact other
  obtain ⟨-, text, read, -, plain, alone, compiled⟩ := record true _ loaded
  obtain rfl : "1 2".toList = text := Except.ok.inj read
  refine ⟨refused, other, by decide +kernel, by decide +kernel, same fun fault wrong => ?_, _,
    plain, loaded, alone, compiled⟩
  rw [loaded] at wrong
  contradiction

end Document

end FlatSheet
