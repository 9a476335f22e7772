import FlatSheet.Proofs.Record.Outcomes
import FlatSheet.Proofs.Record.Pass

/-! # Records with further cells

Cells that are added at the end of a record bring columns into bounds and change none that was there
before. So they change no outcome but faults of references that were out of bounds, and standard
deviations, which divide by the size of the record. The values of a pass are still there after it
goes on over the further cells.
-/

namespace FlatSheet

/-- The outcome of a longer record is that of the shorter one, unless a reference was out of bounds
in the shorter one. -/
inductive Persists {α : Type} : Except Fault α → Except Fault α → Prop
  | same (outcome : Except Fault α) : Persists outcome outcome
  | outOfBounds (reference : Reference) (size : Nat) (outcome : Except Fault α) :
      Persists (.error (.outOfBounds reference size)) outcome

theorem persists_stepwise : Stepwise Persists where
  refl := .same
  bind := by
    intro α β before after next other persists onward
    cases persists with
    | same =>
      cases before with
      | error fault => exact .same _
      | ok value => exact onward value
    | outOfBounds reference size => exact .outOfBounds reference size _

theorem Persists.eq {α : Type} {before after : Except Fault α} (persists : Persists before after)
    (inBounds : ∀ reference size, before ≠ .error (.outOfBounds reference size)) :
    after = before := by
  cases persists with
  | same => rfl
  | outOfBounds reference size => exact absurd rfl (inBounds reference size)

namespace Builtin

/-- Only the standard deviation looks at the population. -/
theorem apply_population {function : Builtin} (other : function ≠ .stdev) (operands : List Float)
    (population further : Nat) :
    function.apply operands population = function.apply operands further := by
  cases function with
  | stdev => contradiction
  | _ => rfl

end Builtin

namespace Record

section Longer

variable (cells more : List Text)

theorem size_ofCells : (ofCells cells).size = cells.length := rfl

theorem cell?_append_of_lt {index : Nat} (inside : index < (ofCells cells).size) :
    (ofCells (cells ++ more)).cell? index = (ofCells cells).cell? index := by
  simp only [cell?, ofCells, List.getElem?_toArray]
  exact List.getElem?_append_left inside

private theorem slice?_append {start stop : Nat} {part : List Text}
    (sliced : (ofCells cells).slice? start stop = some part) :
    (ofCells (cells ++ more)).slice? start stop = some part := by
  rw [slice?_eq_some_iff] at sliced ⊢
  obtain ⟨ordered, inside, columns⟩ := sliced
  refine ⟨ordered, ?_, ?_⟩
  · simp only [size_ofCells, List.length_append] at inside ⊢
    omega
  · rw [← columns]
    apply List.map_congr_left
    intro column member
    rw [List.mem_range'_1] at member
    exact cell?_append_of_lt cells more (by omega)

theorem valueAt_persists (text : Text) :
    Persists ((ofCells cells).valueAt text) ((ofCells (cells ++ more)).valueAt text) := by
  refine persists_stepwise.bind (.same _) fun reference => ?_
  cases found : (ofCells cells).cell? reference.column with
  | none => exact .outOfBounds reference _ _
  | some cell =>
    rw [cell?_append_of_lt cells more (lt_size_of_cell? found), found]
    exact .same _

theorem rangeValues_persists (start stop : Text) :
    Persists ((ofCells cells).rangeValues start stop)
      ((ofCells (cells ++ more)).rangeValues start stop) := by
  refine persists_stepwise.bind (.same _) fun first => ?_
  refine persists_stepwise.bind (.same _) fun last => ?_
  split
  · exact .same _
  · cases sliced : (ofCells cells).slice? first.column last.column with
    | none => exact .outOfBounds last _ _
    | some part =>
      rw [slice?_append cells more sliced]
      exact .same _

private theorem operands_persists (function : Builtin) (arguments : Arguments) :
    Persists ((ofCells cells).operands function arguments)
      ((ofCells (cells ++ more)).operands function arguments) :=
  persists_stepwise.operands (valueAt_persists cells more) (rangeValues_persists cells more)
    function arguments

/-- All outcomes persist but those of the standard deviation. -/
theorem evaluate_persists {content : Content}
    (constant : ∀ arguments, content ≠ .formula .stdev arguments) :
    Persists ((ofCells cells).evaluate content) ((ofCells (cells ++ more)).evaluate content) := by
  refine persists_stepwise.evaluate (valueAt_persists cells more)
    (rangeValues_persists cells more) ?_
  rintro function arguments rfl values
  have other : function ≠ .stdev := by
    rintro rfl
    exact constant arguments rfl
  rw [Builtin.apply_population other values (ofCells cells).size (ofCells (cells ++ more)).size]
  exact .same _

end Longer

/-- Where there are operands, the standard deviation is a value. -/
theorem evaluate_stdev (record : Record) (arguments : Arguments) :
    record.evaluate (.formula .stdev arguments) =
      (record.operands .stdev arguments).map fun values =>
        Builtin.deviation values record.size := by
  rw [evaluate_formula record .stdev arguments nofun]
  cases read : record.operands .stdev arguments with
  | error fault => rfl
  | ok values =>
    obtain ⟨nonempty, positive⟩ := ne_nil_of_operands read
    change Builtin.apply .stdev values record.size = _
    rw [Builtin.apply, if_neg (by simp [nonempty, Nat.ne_of_gt positive])]
    rfl

theorem evaluate_stdev_eq_ok_iff (record : Record) (arguments : Arguments) (value : Float) :
    record.evaluate (.formula .stdev arguments) = .ok value ↔ ∃ values,
      record.operands .stdev arguments = .ok values ∧
      Builtin.deviation values record.size = value := by
  rw [evaluate_stdev]
  cases record.operands .stdev arguments <;> simp [Except.map]

private theorem evaluate_stdev_eq_error_iff (record : Record) (arguments : Arguments)
    (fault : Fault) :
    record.evaluate (.formula .stdev arguments) = .error fault ↔
      record.operands .stdev arguments = .error fault := by
  rw [evaluate_stdev]
  cases record.operands .stdev arguments <;> simp [Except.map]

/-- Each cell of a record whose pass has results keeps its value. -/
theorem valueOf_append {cells : List Text} (more : List Text) {cell : Text} {value : Float}
    (constant : ∀ arguments, Content.classify cell ≠ .ok (.formula .stdev arguments))
    (evaluated : (ofCells cells).valueOf cell = .ok value) :
    (ofCells (cells ++ more)).valueOf cell = .ok value := by
  rw [valueOf] at evaluated ⊢
  cases classified : Content.classify cell with
  | error fault =>
    rw [classified] at evaluated
    contradiction
  | ok content =>
    rw [classified] at evaluated constant
    change (ofCells cells).evaluate content = .ok value at evaluated
    change (ofCells (cells ++ more)).evaluate content = .ok value
    have other : ∀ arguments, content ≠ .formula .stdev arguments := by
      rintro arguments rfl
      exact constant arguments rfl
    rw [(evaluate_persists cells more other).eq (by simp [evaluated]), evaluated]

/-- The pass over a longer record goes on with the results of the shorter one. -/
theorem compile_append {cells : List Text} (more : List Text) {results : Results}
    (constant : ∀ cell ∈ cells, ∀ arguments,
      Content.classify cell ≠ .ok (.formula .stdev arguments))
    (compiled : (ofCells cells).compile = .ok results) :
    (ofCells (cells ++ more)).compile =
      (more.mapM (ofCells (cells ++ more)).valueOf).map results.append := by
  rw [compile_eq_mapM] at compiled ⊢
  change (cells.mapM (ofCells cells).valueOf).map Results.empty.append = _ at compiled
  change ((cells ++ more).mapM (ofCells (cells ++ more)).valueOf).map Results.empty.append = _
  cases read : cells.mapM (ofCells cells).valueOf with
  | error fault =>
    rw [read] at compiled
    contradiction
  | ok values =>
    rw [read] at compiled
    obtain rfl := Except.ok.inj compiled
    have kept : cells.mapM (ofCells (cells ++ more)).valueOf = .ok values := by
      have all := (Traversal.exists_mapM_eq_ok_iff _ cells).mp ⟨values, read⟩
      rw [Traversal.mapM_eq_ok_iff] at read ⊢
      rw [← read]
      apply List.map_congr_left
      intro cell member
      obtain ⟨value, evaluated⟩ := all cell member
      rw [evaluated, valueOf_append more (constant cell member) evaluated]
    rw [List.mapM_append, kept]
    cases more.mapM (ofCells (cells ++ more)).valueOf with
    | error fault => rfl
    | ok further => exact congrArg Except.ok (Results.append_append .empty values further).symm

/-- Further cells at the end keep every value and every fault but those of references out of bounds,
and of a standard deviation that there is one. A pass with results keeps them and goes on. -/
theorem evaluate_append_compile_append (cells more : List Text) :
    (∀ content, (∀ arguments, content ≠ .formula .stdev arguments) →
      (∀ reference size,
        (ofCells cells).evaluate content ≠ .error (.outOfBounds reference size)) →
      (ofCells (cells ++ more)).evaluate content = (ofCells cells).evaluate content) ∧
    (∀ arguments value, (ofCells cells).evaluate (.formula .stdev arguments) = .ok value →
      ∃ other, (ofCells (cells ++ more)).evaluate (.formula .stdev arguments) = .ok other) ∧
    (∀ arguments fault, (ofCells cells).evaluate (.formula .stdev arguments) = .error fault →
      (∀ reference size, fault ≠ .outOfBounds reference size) →
      (ofCells (cells ++ more)).evaluate (.formula .stdev arguments) = .error fault) ∧
    (∀ results, (ofCells cells).compile = .ok results →
      (∀ cell ∈ cells, ∀ arguments,
        Content.classify cell ≠ .ok (.formula .stdev arguments)) →
      (∃ all, (ofCells (cells ++ more)).compile = .ok all ∧
        results.values.toList <+: all.values.toList) ∨
      ∃ (index : Nat) (cell : Text) (fault : Fault), more[index]? = some cell ∧
        (ofCells (cells ++ more)).valueOf cell = .error fault ∧
        (∀ earlier < index, ∀ other, more[earlier]? = some other →
          ∃ value, (ofCells (cells ++ more)).valueOf other = .ok value) ∧
        (ofCells (cells ++ more)).compile = .error fault) := by
  refine ⟨?_, ?_, ?_, ?_⟩
  · intro content constant inBounds
    exact (evaluate_persists cells more constant).eq inBounds
  · intro arguments value evaluated
    obtain ⟨values, read, -⟩ := (evaluate_stdev_eq_ok_iff ..).mp evaluated
    have kept := (operands_persists cells more .stdev arguments).eq (by simp [read])
    exact ⟨_, (evaluate_stdev_eq_ok_iff ..).mpr ⟨values, kept.trans read, rfl⟩⟩
  · intro arguments fault failed inBounds
    rw [evaluate_stdev_eq_error_iff] at failed ⊢
    rw [(operands_persists cells more .stdev arguments).eq (by simpa [failed] using inBounds),
      failed]
  · intro results compiled constant
    rw [compile_append more constant compiled]
    cases read : more.mapM (ofCells (cells ++ more)).valueOf with
    | ok further =>
      refine .inl ⟨results.append further, rfl, ?_⟩
      simp [Results.append]
    | error fault =>
      obtain ⟨index, cell, present, failed, before⟩ :=
        (Traversal.mapM_eq_error_iff _ more fault).mp read
      exact .inr ⟨index, cell, fault, present, failed, before, rfl⟩

/-- Two more cells, the second of which is no content: a sum over a formula still fails with that
formula, a deviation is still a value, and the pass keeps its results or fails in a further cell. -/
theorem evaluate_append_compile_append_fault :
    let cells := ["4".toList, "=COUNT(A1)".toList]
    let more := ["9".toList, "x".toList]
    let fault := Fault.notNumeric "=COUNT(A1)".toList
    (ofCells (cells ++ more)).evaluate (.formula .sum (.range "A1".toList "B1".toList)) =
      .error fault ∧
    (∃ value, (ofCells (cells ++ more)).evaluate (.formula .stdev (.single "A1".toList)) =
      .ok value) ∧
    (ofCells (cells ++ more)).evaluate (.formula .stdev (.single "B1".toList)) = .error fault ∧
    ((∃ all, (ofCells (cells ++ more)).compile = .ok all ∧ [4, 1] <+: all.values.toList) ∨
      ∃ (index : Nat) (cell : Text) (fault : Fault), more[index]? = some cell ∧
        (ofCells (cells ++ more)).compile = .error fault) := by
  intro cells more fault
  obtain ⟨stable, deviation, failed, pass⟩ := evaluate_append_compile_append cells more
  refine ⟨?_, ?_, ?_, ?_⟩
  · have before : (ofCells cells).evaluate (.formula .sum (.range "A1".toList "B1".toList)) =
        .error fault := by decide +kernel
    have inBounds : ∀ reference size, fault ≠ .outOfBounds reference size := by simp [fault]
    rw [stable _ (by simp) (by simpa only [before, ne_eq, Except.error.injEq] using inBounds),
      before]
  · have read : (ofCells cells).operands .stdev (.single "A1".toList) = .ok [4] := by
      decide +kernel
    exact deviation _ _ ((evaluate_stdev_eq_ok_iff ..).mpr ⟨[4], read, rfl⟩)
  · exact failed _ fault (by decide +kernel) (by simp [fault])
  · have before : (ofCells cells).compile = .ok { values := #[4, 1] } := by decide +kernel
    have literal : Content.classify "4".toList = .ok (.literal 4) := by decide +kernel
    have count : Content.classify "=COUNT(A1)".toList =
        .ok (.formula .count (.single "A1".toList)) := by decide +kernel
    have constant : ∀ cell ∈ cells, ∀ arguments,
        Content.classify cell ≠ .ok (.formula .stdev arguments) := by
      intro cell member arguments
      rcases List.mem_pair.mp member with rfl | rfl
      · rw [literal]
        simp
      · rw [count]
        simp
    rcases pass _ before constant with kept | ⟨index, cell, fault, present, -, -, ends⟩
    · exact .inl kept
    · exact .inr ⟨index, cell, fault, present, ends⟩

end Record

end FlatSheet
