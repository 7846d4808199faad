import CollectionSchema.Proofs.Record.Rereading

/-! # Batches of rows

A batch is read row by row, and every row as it would be read alone at its position. The
first failure ends it, and then nothing is handed over. Factories count their runs, so
what is read alone is read after the rows before it.
-/

namespace CollectionSchema

variable {recordType : RecordType} {Payload : Type}

/-! ## Steady defaults

Where no run of a factory differs from another, it does not matter how many have gone
before. -/

/-- All runs come out the same. -/
def Default.Steady (default : Default) : Prop :=
  ∀ runs other, (default.produce runs).1 = (default.produce other).1

theorem Default.steady_fixed (value : Json) : (Default.fixed value).Steady :=
  fun _ _ => rfl

def Field.Steady (field : Field) : Prop :=
  ∀ default, field.default? = some default → default.Steady

namespace Mapper

theorem fst_readField_of_steady {binding : Binding recordType} (steady : binding.field.Steady)
    (row : Json) (record : Record recordType) (runs other : Nat) :
    (readField row binding record runs).1 = (readField row binding record other).1 := by
  cases present : row.member? binding.field.storage with
  | some json => rw [readField_of_present present, readField_of_present present]
  | none =>
      cases declared : binding.field.default? with
      | none =>
          have unsupplied : Unsupplied row binding.field := ⟨present, declared⟩
          rw [unsupplied.readField_eq, unsupplied.readField_eq]
      | some default =>
          rw [readField_of_default present declared, readField_of_default present declared,
            steady default declared runs other]

theorem fst_readFields_of_steady {bindings : List (Binding recordType)}
    (steady : ∀ binding ∈ bindings, binding.field.Steady) (row : Json)
    (record : Record recordType) (runs other : Nat) :
    (readFields row bindings record runs).1 = (readFields row bindings record other).1 := by
  induction bindings generalizing record runs other with
  | nil => rfl
  | cons binding rest induction =>
      rcases List.forall_mem_cons.mp steady with ⟨first, others⟩
      rw [fst_readFields_cons, fst_readFields_cons,
        fst_readField_of_steady first row record runs other]
      cases (readField row binding record other).1 with
      | error fault => rfl
      | ok next => exact induction others next _ _

theorem fst_readRow_of_steady {mapper : Mapper recordType Payload}
    (steady : ∀ binding ∈ mapper.bindings, binding.field.Steady) (position : Nat) (row : Json)
    (runs other : Nat) :
    (mapper.readRow position row runs).1 = (mapper.readRow position row other).1 := by
  simp only [readRow]
  cases mapper.definition.keysFault? row with
  | some fault => rfl
  | none =>
      exact congrArg (Except.mapError (RowError.mk position))
        (fst_readFields_of_steady steady row (.initial recordType) runs other)

end Mapper

/-! ## Row numbers -/

/-- The same fault, so many rows later. -/
def RowError.later (error : RowError) (offset : Nat) : RowError :=
  { error with position := error.position + offset }

def MapperError.later (error : MapperError) (offset : Nat) : MapperError :=
  match error with
  | .binding cause => .binding cause
  | .row cause => .row (cause.later offset)

namespace Mapper

theorem readRow_later (mapper : Mapper recordType Payload) (position offset : Nat) (row : Json)
    (runs : Nat) :
    mapper.readRow (position + offset) row runs =
      ((mapper.readRow position row runs).1.mapError (·.later offset),
        (mapper.readRow position row runs).2) := by
  simp only [readRow]
  cases mapper.definition.keysFault? row with
  | some fault => rfl
  | none =>
      rcases readFields row mapper.bindings (.initial recordType) runs with ⟨fault | record, later⟩
      · rfl
      · rfl

namespace Bound

variable {bound : Bound recordType Payload}

theorem deserializeRecord_later (bound : Bound recordType Payload) (position offset : Nat)
    (row : Json) (runs : Nat) :
    bound.deserializeRecord (position + offset) row runs =
      ((bound.deserializeRecord position row runs).1.mapError (·.later offset),
        (bound.deserializeRecord position row runs).2) := by
  cases bound with
  | error cause => rfl
  | ok mapper =>
      simp only [deserializeRecord, readRow_later]
      rcases mapper.readRow position row runs with ⟨error | record, later⟩
      · rfl
      · rfl

/-! ## Row by row -/

/-- The rows read one at a time, the first of them at the given position. -/
def deserializeFrom (bound : Bound recordType Payload) (position : Nat) :
    List Json → Nat → Except MapperError (List (Record recordType)) × Nat
  | [], runs => (.ok [], runs)
  | row :: rest, runs =>
      match bound.deserializeRecord position row runs with
      | (.error error, runs) => (.error error, runs)
      | (.ok record, runs) =>
          let (others, runs) := bound.deserializeFrom (position + 1) rest runs
          (others.map (record :: ·), runs)

section Steps

variable {position runs later : Nat} {row : Json}

theorem deserializeFrom_of_failed {error : MapperError}
    (failed : bound.deserializeRecord position row runs = (.error error, later))
    (rest : List Json) :
    bound.deserializeFrom position (row :: rest) runs = (.error error, later) := by
  rw [deserializeFrom, failed]

theorem deserializeFrom_of_read {record : Record recordType}
    (read : bound.deserializeRecord position row runs = (.ok record, later))
    (rest : List Json) :
    bound.deserializeFrom position (row :: rest) runs =
      ((bound.deserializeFrom (position + 1) rest later).1.map (record :: ·),
        (bound.deserializeFrom (position + 1) rest later).2) := by
  rw [deserializeFrom, read]

end Steps

theorem deserializeFrom_ok (mapper : Mapper recordType Payload) (position : Nat)
    (rows : List Json) (runs : Nat) :
    deserializeFrom (.ok mapper) position rows runs =
      ((mapper.readRows position rows runs).1.mapError .row,
        (mapper.readRows position rows runs).2) := by
  induction rows generalizing position runs with
  | nil => rfl
  | cons row rest induction =>
      simp only [readRows]
      rcases read : mapper.readRow position row runs with ⟨error | record, later⟩
      · have failed : deserializeRecord (.ok mapper) position row runs =
            (.error (.row error), later) := by rw [deserializeRecord, read]; rfl
        exact deserializeFrom_of_failed failed rest
      · have succeeded : deserializeRecord (.ok mapper) position row runs =
            (.ok record, later) := by rw [deserializeRecord, read]; rfl
        rw [deserializeFrom_of_read succeeded, induction]
        rcases mapper.readRows (position + 1) rest later with ⟨error | others, last⟩
        · rfl
        · rfl

theorem deserialize_eq (bound : Bound recordType Payload) (rows : List Json) (runs : Nat) :
    bound.deserialize rows runs = bound.deserializeFrom 0 rows runs := by
  cases bound with
  | error cause => cases rows <;> rfl
  | ok mapper => rw [deserialize_ok, deserializeFrom_ok]

/-! ## Each row alone -/

/-- How many factories have run after the rows, each read alone at its position. -/
def runsAfter (bound : Bound recordType Payload) (start : Nat) : List Json → Nat → Nat
  | [], runs => runs
  | row :: rest, runs =>
      bound.runsAfter (start + 1) rest (bound.deserializeRecord start row runs).2

/-- What the rows read as alone, each at its position and after the rows before it. -/
def outcomes (bound : Bound recordType Payload) (start : Nat) (rows : List Json) (runs : Nat) :
    List (Except MapperError (Record recordType)) :=
  rows.mapIdx fun index row =>
    (bound.deserializeRecord (start + index) row
      (bound.runsAfter start (rows.take index) runs)).1

theorem outcomes_cons (bound : Bound recordType Payload) (start : Nat) (row : Json)
    (rest : List Json) (runs : Nat) :
    bound.outcomes start (row :: rest) runs = (bound.deserializeRecord start row runs).1 ::
      bound.outcomes (start + 1) rest (bound.deserializeRecord start row runs).2 := by
  rw [outcomes, List.mapIdx_cons]
  congr 2
  funext index other
  rw [List.take_succ_cons, runsAfter, Nat.add_right_comm, Nat.add_assoc]

/-- The first failure ends a batch. -/
theorem fst_deserializeFrom (bound : Bound recordType Payload) (start : Nat) (rows : List Json)
    (runs : Nat) :
    (bound.deserializeFrom start rows runs).1 = (bound.outcomes start rows runs).mapM id := by
  induction rows generalizing start runs with
  | nil => rfl
  | cons row rest induction =>
      rw [outcomes_cons, List.mapM_cons, ← induction]
      rcases first : bound.deserializeRecord start row runs with ⟨error | record, later⟩
      · rw [deserializeFrom_of_failed first]
        rfl
      · rw [deserializeFrom_of_read first]
        cases (bound.deserializeFrom (start + 1) rest later).1 <;> rfl

section Outcomes

variable {start runs : Nat} {rows : List Json}

theorem deserializeFrom_eq_ok_iff {records : List (Record recordType)} :
    (bound.deserializeFrom start rows runs).1 = .ok records ↔
      bound.outcomes start rows runs = records.map .ok := by
  rw [fst_deserializeFrom, mapM_eq_ok_iff, List.map_id]

/-- All rows before the failing one have been read, and those after it do not matter. -/
theorem deserializeFrom_eq_error_iff {error : MapperError} :
    (bound.deserializeFrom start rows runs).1 = .error error ↔
      ∃ (records : List (Record recordType)) (others : List (Except MapperError _)),
        bound.outcomes start rows runs = records.map .ok ++ .error error :: others := by
  rw [fst_deserializeFrom, mapM_eq_error_iff]
  constructor
  · intro failed
    rcases failed with ⟨front, outcome, others, split, before, same⟩
    rcases exists_mapM_eq_ok_iff.mpr before with ⟨records, read⟩
    rw [mapM_eq_ok_iff, List.map_id] at read
    rw [id] at same
    exact ⟨records, others, by rw [split, read, same]⟩
  · intro failed
    rcases failed with ⟨records, others, split⟩
    refine ⟨records.map .ok, .error error, others, split, ?_, rfl⟩
    intro earlier listed
    rcases List.mem_map.mp listed with ⟨record, _, same⟩
    exact ⟨record, same.symm⟩

theorem exists_deserializeFrom_iff :
    (∃ records, (bound.deserializeFrom start rows runs).1 = .ok records) ↔
      ∀ outcome ∈ bound.outcomes start rows runs, ∃ record, outcome = .ok record := by
  rw [fst_deserializeFrom]
  exact exists_mapM_eq_ok_iff

end Outcomes

/-! ## Steady mappers -/

def Steady (bound : Bound recordType Payload) : Prop :=
  ∀ mapper, bound = .ok mapper → ∀ binding ∈ mapper.bindings, binding.field.Steady

theorem fst_deserializeRecord_of_steady (steady : bound.Steady) (position : Nat) (row : Json)
    (runs other : Nat) :
    (bound.deserializeRecord position row runs).1 =
      (bound.deserializeRecord position row other).1 := by
  cases bound with
  | error cause => rfl
  | ok mapper =>
      exact congrArg (Except.mapError MapperError.row)
        (fst_readRow_of_steady (steady mapper rfl) position row runs other)

theorem outcomes_of_steady (steady : bound.Steady) (start : Nat) (rows : List Json)
    (runs other : Nat) :
    bound.outcomes start rows runs =
      rows.mapIdx fun index row => (bound.deserializeRecord (start + index) row other).1 := by
  rw [outcomes]
  congr 1
  funext index row
  exact fst_deserializeRecord_of_steady steady (start + index) row _ other

theorem fst_deserialize_of_steady (steady : bound.Steady) (rows : List Json)
    (runs other : Nat) : (bound.deserialize rows runs).1 = (bound.deserialize rows other).1 := by
  rw [deserialize_eq, deserialize_eq, fst_deserializeFrom, fst_deserializeFrom,
    outcomes_of_steady steady 0 rows runs 0, outcomes_of_steady steady 0 rows other 0]

/-! ## Batches of two parts -/

theorem deserializeFrom_append (bound : Bound recordType Payload) (start : Nat)
    (front back : List Json) (runs : Nat) :
    bound.deserializeFrom start (front ++ back) runs =
      match bound.deserializeFrom start front runs with
      | (.error error, later) => (.error error, later)
      | (.ok records, between) =>
          ((bound.deserializeFrom (start + front.length) back between).1.map (records ++ ·),
            (bound.deserializeFrom (start + front.length) back between).2) := by
  induction front generalizing start runs with
  | nil =>
      change bound.deserializeFrom start back runs =
        ((bound.deserializeFrom start back runs).1.map ([] ++ ·),
          (bound.deserializeFrom start back runs).2)
      rcases bound.deserializeFrom start back runs with ⟨error | records, later⟩
      · rfl
      · rfl
  | cons row rest induction =>
      rcases first : bound.deserializeRecord start row runs with ⟨error | record, later⟩
      · rw [List.cons_append, deserializeFrom_of_failed first, deserializeFrom_of_failed first]
      · rw [List.cons_append, deserializeFrom_of_read first, deserializeFrom_of_read first,
          induction, List.length_cons, Nat.add_right_comm, Nat.add_assoc]
        rcases bound.deserializeFrom (start + 1) rest later with ⟨error | others, between⟩
        · rfl
        · dsimp only [Except.map]
          rcases bound.deserializeFrom (start + (rest.length + 1)) back between with
            ⟨error | more, last⟩
          · rfl
          · rfl

theorem deserializeFrom_later (bound : Bound recordType Payload) (start offset : Nat)
    (rows : List Json) (runs : Nat) :
    bound.deserializeFrom (start + offset) rows runs =
      ((bound.deserializeFrom start rows runs).1.mapError (·.later offset),
        (bound.deserializeFrom start rows runs).2) := by
  induction rows generalizing start runs with
  | nil => rfl
  | cons row rest induction =>
      have moved := deserializeRecord_later bound start offset row runs
      rcases first : bound.deserializeRecord start row runs with ⟨error | record, later⟩
      · rw [first] at moved
        rw [deserializeFrom_of_failed moved, deserializeFrom_of_failed first]
        rfl
      · rw [first] at moved
        rw [deserializeFrom_of_read moved, deserializeFrom_of_read first, Nat.add_right_comm,
          induction]
        rcases bound.deserializeFrom (start + 1) rest later with ⟨error | others, last⟩
        · rfl
        · rfl

/-! ## Whole batches -/

theorem serialize_of_unbound (cause : BindingError) {records : List (Record recordType)}
    (nonempty : records ≠ []) :
    serialize (.error cause : Bound recordType Payload) records = .error (.binding cause) := by
  cases records with
  | nil => exact absurd rfl nonempty
  | cons record rest => rfl

theorem deserialize_of_unbound (cause : BindingError) {rows : List Json} (nonempty : rows ≠ [])
    (runs : Nat) :
    deserialize (.error cause : Bound recordType Payload) rows runs =
      (.error (.binding cause), runs) := by
  cases rows with
  | nil => exact absurd rfl nonempty
  | cons row rest => rfl

section Parts

variable {front back : List Json} {runs : Nat}

/-- The second part starts where the first one ended, and its rows are counted on. -/
theorem deserialize_append (bound : Bound recordType Payload) (front back : List Json)
    (runs : Nat) :
    bound.deserialize (front ++ back) runs =
      match bound.deserialize front runs with
      | (.error error, later) => (.error error, later)
      | (.ok records, between) =>
          (((bound.deserialize back between).1.mapError (·.later front.length)).map
            (records ++ ·), (bound.deserialize back between).2) := by
  rw [deserialize_eq, deserialize_eq, deserializeFrom_append]
  simp only [deserialize_eq, deserializeFrom_later]

theorem deserialize_append_eq_ok_iff {records : List (Record recordType)} :
    (bound.deserialize (front ++ back) runs).1 = .ok records ↔
      ∃ former latter, (bound.deserialize front runs).1 = .ok former ∧
        (bound.deserialize back (bound.deserialize front runs).2).1 = .ok latter ∧
        former ++ latter = records := by
  rw [deserialize_append]
  rcases bound.deserialize front runs with ⟨error | former, between⟩
  · simp
  · simp only [map_eq_ok_iff, mapError_eq_ok_iff, Except.ok.injEq]
    constructor
    · intro read
      rcases read with ⟨latter, second, joined⟩
      exact ⟨former, latter, rfl, second, joined⟩
    · intro parts
      rcases parts with ⟨_, latter, rfl, second, joined⟩
      exact ⟨latter, second, joined⟩

theorem deserialize_append_of_first {error : MapperError}
    (failed : (bound.deserialize front runs).1 = .error error) (back : List Json) :
    bound.deserialize (front ++ back) runs = bound.deserialize front runs := by
  rw [deserialize_append]
  rcases first : bound.deserialize front runs with ⟨_ | former, between⟩
  · rfl
  · rw [first] at failed
    cases failed

theorem deserialize_append_of_second {former : List (Record recordType)} {error : MapperError}
    (read : (bound.deserialize front runs).1 = .ok former)
    (failed : (bound.deserialize back (bound.deserialize front runs).2).1 = .error error) :
    (bound.deserialize (front ++ back) runs).1 = .error (error.later front.length) := by
  rw [deserialize_append]
  rcases first : bound.deserialize front runs with ⟨cause | former, between⟩
  · rw [first] at read
    cases read
  · rw [first] at failed
    simp only [failed]
    rfl

end Parts

/-- A batch comes to what its rows come to one by one, each at its position. It fails as
the first row that fails, and then the caller keeps the records held. Batches may be
joined. Without a mapper only the empty ones succeed. -/
theorem batches_row_by_row (bound : Bound recordType Payload) (rows : List Json) (runs : Nat)
    (held : List (Record recordType)) (heldRows : List Json) :
    let read := (bound.deserialize rows runs).1
    let outcomes := bound.outcomes 0 rows runs
    ((∃ records, read = .ok records) ↔
      ∀ outcome ∈ outcomes, ∃ record, outcome = .ok record) ∧
    (∀ records, (read = .ok records ↔ outcomes = records.map .ok) ∧
      (read = .ok records → assign held read = records)) ∧
    (∀ error, (read = .error error ↔
        ∃ (records : List (Record recordType)) (others : List (Except MapperError _)),
          outcomes = records.map .ok ++ .error error :: others) ∧
      (read = .error error → assign held read = held)) ∧
    (bound.Steady → ∀ other, read = (bound.deserialize rows other).1 ∧
      outcomes = rows.mapIdx fun index row => (bound.deserializeRecord index row other).1) ∧
    (∀ front back, rows = front ++ back →
      let first := bound.deserialize front runs
      let second := bound.deserialize back first.2
      (∀ records, read = .ok records ↔ ∃ former latter,
        first.1 = .ok former ∧ second.1 = .ok latter ∧ former ++ latter = records) ∧
      (∀ error, first.1 = .error error → read = .error error) ∧
      ∀ former error, first.1 = .ok former → second.1 = .error error →
        read = .error (error.later front.length)) ∧
    (∀ cause, bound = .error cause →
      (rows ≠ [] → read.mapError MapperError.status = .error cause.status) ∧
      ∀ records, records ≠ [] →
        (bound.serialize records).mapError MapperError.status = .error cause.status ∧
        assign heldRows (bound.serialize records) = heldRows) ∧
    assign held (bound.deserialize [] runs).1 = [] ∧
    assign heldRows (bound.serialize []) = [] := by
  intro read outcomes
  have read_eq : read = (bound.deserializeFrom 0 rows runs).1 := by
    rw [← deserialize_eq]
  refine ⟨?_, ?_, ?_, ?_, ?_, ?_, ?_, rfl⟩
  · rw [read_eq]
    exact exists_deserializeFrom_iff
  · intro records
    constructor
    · rw [read_eq]
      exact deserializeFrom_eq_ok_iff
    · intro succeeded
      rw [succeeded]
      rfl
  · intro error
    constructor
    · rw [read_eq]
      exact deserializeFrom_eq_error_iff
    · intro failed
      rw [failed]
      rfl
  · intro steady other
    have same := outcomes_of_steady steady 0 rows runs other
    simp only [Nat.zero_add] at same
    exact ⟨fst_deserialize_of_steady steady rows runs other, same⟩
  · intro front back split first second
    subst split
    refine ⟨fun records => deserialize_append_eq_ok_iff, ?_, ?_⟩
    · intro error failed
      exact (congrArg Prod.fst (deserialize_append_of_first failed back)).trans failed
    · intro former error succeeded failed
      exact deserialize_append_of_second succeeded failed
  · intro cause unbound
    subst unbound
    constructor
    · intro nonempty
      rw [show read = _ from congrArg Prod.fst (deserialize_of_unbound cause nonempty runs)]
      rfl
    · intro records nonempty
      rw [serialize_of_unbound cause nonempty]
      exact ⟨rfl, rfl⟩
  · cases bound <;> rfl

/-! The third of these notes lacks its key. The first one is given a score by the run
of a factory, which no longer matters once the default is fixed. -/

def thirdWithoutKey : List Json :=
  [.object [("id", .string "a")], .object [("points", .int 7), ("id", .string "b")],
    .object [("remark", .string "late")]]

theorem batches_row_by_row_notes : ∃ definition mapper former,
    noteDraft.build = .ok definition ∧ noteDescriptor.bind (some definition) = .ok mapper ∧
      deserialize (.ok mapper) (thirdWithoutKey.take 2) 3 = (.ok former, 4) ∧
      (deserialize (.ok mapper) thirdWithoutKey 3).1 = .error (.row ⟨2, .missingKey "id"⟩) ∧
      assign former (deserialize (.ok mapper) thirdWithoutKey 3).1 = former ∧
      let fixed : Bound note Empty := .ok (mapper.withDefaults fun _ => some (.fixed (.int 1)))
      fixed.Steady ∧ (fixed.deserialize thirdWithoutKey 3).1 =
        (fixed.deserialize thirdWithoutKey 9).1 := by
  rcases (⟨_, _, _, rfl, rfl, rfl, rfl⟩ : ∃ definition mapper former,
    noteDraft.build = .ok definition ∧ noteDescriptor.bind (some definition) = .ok mapper ∧
      deserialize (.ok mapper) (thirdWithoutKey.take 2) 3 = (.ok former, 4) ∧
      deserialize (.ok mapper) (thirdWithoutKey.drop 2) 4 =
        (.error (.row ⟨0, .missingKey "id"⟩), 4))
    with ⟨definition, mapper, former, built, bound, first, second⟩
  rcases batches_row_by_row (.ok mapper) thirdWithoutKey 3 former [] with
    ⟨_, _, failure, _, parts, _⟩
  have read := (parts (thirdWithoutKey.take 2) (thirdWithoutKey.drop 2) rfl).2.2 former _
    (congrArg Prod.fst first) (by rw [first]; exact congrArg Prod.fst second)
  have steady : Bound.Steady (.ok (mapper.withDefaults fun _ => some (.fixed (.int 1)))) := by
    intro changed same binding listed default declared
    cases same
    rcases List.mem_map.mp listed with ⟨source, _, rfl⟩
    cases declared
    exact Default.steady_fixed (.int 1)
  refine ⟨definition, mapper, former, built, bound, first, read, (failure _).2 read, steady, ?_⟩
  exact ((batches_row_by_row _ thirdWithoutKey 3 [] []).2.2.2.1 steady 9).1

end Bound

end Mapper

end CollectionSchema
