import Mathlib.Data.List.Forall2

/-! # Steps in sequence

A sequence of steps succeeds if all of them do, and otherwise ends with the
first failure.
-/

namespace CollectionSchema

variable {Error : Type u} {Source : Type v} {Value : Type w}

/-! ## Elements that correspond -/

/-- Each element has a counterpart if and only if there is a list of counterparts. -/
theorem exists_forall₂_iff {related : Source → Value → Prop} {sources : List Source} :
    (∃ results, List.Forall₂ related sources results) ↔
      ∀ source ∈ sources, ∃ result, related source result := by
  induction sources with
  | nil => simp
  | cons source rest induction =>
      rw [List.forall_mem_cons, ← induction]
      simp only [List.forall₂_cons_left_iff]
      constructor
      · rintro ⟨_, result, results, first, others, rfl⟩
        exact ⟨⟨result, first⟩, results, others⟩
      · rintro ⟨⟨result, first⟩, results, others⟩
        exact ⟨_, result, results, first, others, rfl⟩

/-! ## Steps that may fail -/

theorem bind_eq_ok_iff {First Second : Type w} {attempt : Except Error First}
    {next : First → Except Error Second} {result : Second} :
    attempt >>= next = .ok result ↔ ∃ first, attempt = .ok first ∧ next first = .ok result := by
  cases attempt <;> simp [bind, Except.bind]

theorem bind_eq_error_iff {First Second : Type w} {attempt : Except Error First}
    {next : First → Except Error Second} {cause : Error} :
    attempt >>= next = .error cause ↔
      attempt = .error cause ∨ ∃ first, attempt = .ok first ∧ next first = .error cause := by
  cases attempt <;> simp [bind, Except.bind]

/-- A check succeeds before what follows it does. -/
theorem check_bind_eq_ok_iff {check : Except Error PUnit} {next : Except Error Value}
    {result : Value} :
    (check >>= fun _ => next) = .ok result ↔ check = .ok ⟨⟩ ∧ next = .ok result := by
  rw [bind_eq_ok_iff]
  constructor
  · intro steps
    rcases steps with ⟨_, first, second⟩
    exact ⟨first, second⟩
  · intro steps
    exact ⟨⟨⟩, steps⟩

/-- A failure that a check never ends with comes from what follows it. -/
theorem check_bind_eq_error_iff {check : Except Error PUnit} {next : Except Error Value}
    {cause : Error} (other : check ≠ .error cause) :
    (check >>= fun _ => next) = .error cause ↔ check = .ok ⟨⟩ ∧ next = .error cause := by
  rw [bind_eq_error_iff, or_iff_right other]
  constructor
  · intro steps
    rcases steps with ⟨_, passed, failed⟩
    exact ⟨passed, failed⟩
  · intro steps
    exact ⟨⟨⟩, steps⟩

theorem map_eq_ok_iff {Other : Type x} {change : Value → Other} {attempt : Except Error Value}
    {result : Other} :
    attempt.map change = .ok result ↔ ∃ value, attempt = .ok value ∧ change value = result := by
  cases attempt <;> simp [Except.map]

theorem mapError_eq_ok_iff {Other : Type x} {change : Error → Other}
    {attempt : Except Error Value} {result : Value} :
    attempt.mapError change = .ok result ↔ attempt = .ok result := by
  cases attempt with
  | error cause =>
      constructor
      · intro failed
        cases failed
      · intro failed
        cases failed
  | ok value =>
      constructor
      · intro same
        exact congrArg Except.ok (Except.ok.inj same)
      · intro same
        exact congrArg Except.ok (Except.ok.inj same)

theorem mapError_eq_error_iff {Other : Type x} {change : Error → Other}
    {attempt : Except Error Value} {other : Other} :
    attempt.mapError change = .error other ↔
      ∃ cause, attempt = .error cause ∧ change cause = other := by
  cases attempt with
  | error cause =>
      constructor
      · intro failed
        exact ⟨cause, rfl, Except.error.inj failed⟩
      · intro failed
        rcases failed with ⟨_, same, rfl⟩
        cases same
        rfl
  | ok value =>
      constructor
      · intro succeeded
        cases succeeded
      · intro failed
        rcases failed with ⟨_, same, _⟩
        cases same

/-- A failure that none is changed to is not the outcome. -/
theorem mapError_ne_error {Other : Type x} {change : Error → Other} {other : Other}
    (never : ∀ cause, change cause ≠ other) (attempt : Except Error Value) :
    attempt.mapError change ≠ .error other := by
  rw [Ne, mapError_eq_error_iff]
  intro failed
  rcases failed with ⟨cause, _, same⟩
  exact never cause same

theorem forM_eq_ok_iff {check : Source → Except Error PUnit} {sources : List Source} :
    sources.forM check = .ok ⟨⟩ ↔ ∀ source ∈ sources, check source = .ok ⟨⟩ := by
  induction sources with
  | nil => simp [pure, Except.pure]
  | cons source rest induction =>
      rw [List.forall_mem_cons, ← induction]
      exact check_bind_eq_ok_iff

theorem forM_congr {first second : Source → Except Error PUnit} {sources : List Source}
    (same : ∀ source ∈ sources, first source = second source) :
    sources.forM first = sources.forM second := by
  induction sources with
  | nil => rfl
  | cons source rest induction =>
      have parts := List.forall_mem_cons.mp same
      change (first source >>= fun _ => rest.forM first) = _
      rw [parts.1, induction parts.2]
      rfl

/-- The results are those of the elements, in order. -/
theorem mapM_eq_ok_iff {read : Source → Except Error Value} {sources : List Source}
    {results : List Value} :
    sources.mapM read = .ok results ↔ sources.map read = results.map .ok := by
  induction sources generalizing results with
  | nil => cases results <;> simp [pure, Except.pure]
  | cons source rest induction =>
      rw [List.mapM_cons, bind_eq_ok_iff]
      cases results with
      | nil =>
          simp only [bind_eq_ok_iff]
          simp [pure, Except.pure]
      | cons result others =>
          rw [List.map_cons, List.map_cons, List.cons.injEq, ← induction]
          simp only [bind_eq_ok_iff]
          constructor
          · intro steps
            rcases steps with ⟨_, first, _, tail, equal⟩
            cases equal
            exact ⟨first, tail⟩
          · intro steps
            rcases steps with ⟨first, tail⟩
            exact ⟨result, first, others, tail, rfl⟩

theorem mapM_eq_ok_iff_forall₂ {read : Source → Except Error Value} {sources : List Source}
    {results : List Value} :
    sources.mapM read = .ok results ↔
      List.Forall₂ (fun source result => read source = .ok result) sources results := by
  rw [mapM_eq_ok_iff, ← List.forall₂_eq_eq_eq, List.forall₂_map_left_iff,
    List.forall₂_map_right_iff]

/-- The failure is that of the first element that fails. -/
theorem mapM_eq_error_iff {read : Source → Except Error Value} {sources : List Source}
    {cause : Error} :
    sources.mapM read = .error cause ↔ ∃ front source back,
      sources = front ++ source :: back ∧
        (∀ earlier ∈ front, ∃ result, read earlier = .ok result) ∧
        read source = .error cause := by
  induction sources with
  | nil => simp [pure, Except.pure]
  | cons source rest induction =>
      rw [List.mapM_cons, bind_eq_error_iff]
      constructor
      · intro failed
        rcases failed with failed | ⟨result, first, failed⟩
        · exact ⟨[], source, rest, rfl, List.forall_mem_nil _, failed⟩
        · rw [bind_eq_error_iff] at failed
          rcases failed with failed | ⟨_, _, succeeded⟩
          · rcases induction.mp failed with ⟨front, other, back, rfl, before, failed⟩
            refine ⟨source :: front, other, back, rfl, ?_, failed⟩
            exact List.forall_mem_cons.mpr ⟨⟨result, first⟩, before⟩
          · cases succeeded
      · intro failed
        rcases failed with ⟨_ | ⟨head, front⟩, other, back, split, before, failed⟩
        · cases split
          exact .inl failed
        · cases split
          rcases List.forall_mem_cons.mp before with ⟨⟨result, first⟩, before⟩
          refine .inr ⟨result, first, ?_⟩
          rw [bind_eq_error_iff]
          exact .inl (induction.mpr ⟨front, other, back, rfl, before, failed⟩)

/-- A sequence succeeds if and only if every element does. -/
theorem exists_mapM_eq_ok_iff {read : Source → Except Error Value} {sources : List Source} :
    (∃ results, sources.mapM read = .ok results) ↔
      ∀ source ∈ sources, ∃ result, read source = .ok result := by
  simp only [mapM_eq_ok_iff_forall₂, exists_forall₂_iff]

/-- Results are changed in place, and a failure stays as it is. -/
theorem mapM_map_results {Other : Type w} (read : Source → Except Error Value)
    (change : Value → Other) (sources : List Source) :
    sources.mapM (fun source => (read source).map change) =
      (sources.mapM read).map (List.map change) := by
  induction sources with
  | nil => rfl
  | cons source rest induction =>
      rw [List.mapM_cons, List.mapM_cons, induction]
      cases read source with
      | error cause => rfl
      | ok result => cases rest.mapM read <;> rfl

/-- Every result is the result of some element. -/
theorem exists_source_of_mapM {read : Source → Except Error Value} {sources : List Source}
    {results : List Value} (all : sources.mapM read = .ok results) {result : Value}
    (member : result ∈ results) : ∃ source ∈ sources, read source = .ok result := by
  have listed : Except.ok result ∈ sources.map read := by
    rw [mapM_eq_ok_iff.mp all]
    exact List.mem_map_of_mem member
  exact List.mem_map.mp listed

/-- What results tell of their sources, they tell in order. -/
theorem map_eq_map_of_mapM {Part : Type x} {read : Source → Except Error Value}
    {part : Value → Part} {source : Source → Part}
    (tells : ∀ given result, read given = .ok result → part result = source given)
    {sources : List Source} {results : List Value} (all : sources.mapM read = .ok results) :
    results.map part = sources.map source := by
  rw [mapM_eq_ok_iff_forall₂] at all
  induction all with
  | nil => rfl
  | cons first _ induction =>
      rw [List.map_cons, List.map_cons, tells _ _ first, induction]

/-- Results that tell their sources list them in order. -/
theorem map_eq_of_mapM {read : Source → Except Error Value} {source : Value → Source}
    (tells : ∀ given result, read given = .ok result → source result = given)
    {sources : List Source} {results : List Value} (all : sources.mapM read = .ok results) :
    results.map source = sources :=
  (map_eq_map_of_mapM tells all).trans (List.map_id sources)

/-! ## Steps that may give nothing -/

end CollectionSchema
