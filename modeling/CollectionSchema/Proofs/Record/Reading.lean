import CollectionSchema.Proofs.Sequence
import CollectionSchema.Record.Mapper

/-! # Reading field by field

The fields of a row are read in the order of the definition, each on top of what
those before it have left. What one field does is told once, and what all of them
do follows from it.
-/

namespace CollectionSchema

variable {recordType : RecordType}

namespace Mapper

variable {row : Json} {binding : Binding recordType} {record result : Record recordType}
  {bindings : List (Binding recordType)} {runs count later : Nat} {fault : RowFault}

/-! ## One field -/

/-- The record with the member of one field read, and the runs of factories after it. -/
def readField (row : Json) (binding : Binding recordType) (record : Record recordType)
    (runs : Nat) : Except RowFault (Record recordType) × Nat :=
  let (supplied, runs) := supply binding.field row runs
  (supplied >>= accept binding record, runs)

/-- Neither the row nor a default gives a value for the field. -/
structure Unsupplied (row : Json) (field : Field) : Prop where
  omitted : row.member? field.storage = none
  undeclared : field.default? = none

instance (row : Json) (field : Field) : Decidable (Unsupplied row field) :=
  decidable_of_iff ((row.member? field.storage).isNone = true ∧ field.default?.isNone = true) <| by
    rw [Option.isNone_iff_eq_none, Option.isNone_iff_eq_none]
    exact ⟨fun parts => ⟨parts.1, parts.2⟩, fun unsupplied => ⟨unsupplied.1, unsupplied.2⟩⟩

/-- How many factories run for the field. -/
def factoryRuns (row : Json) (field : Field) : Nat :=
  match row.member? field.storage, field.default? with
  | none, some (.factory _) => 1
  | _, _ => 0

/-- The codec of the field's member rejects its value in the row, or else its default,
or the default throws. It is asked after so many factories have run. -/
inductive Refuses (row : Json) (binding : Binding recordType) (count : Nat) : RowFault → Prop
  | value {json : Json} (present : row.member? binding.field.storage = some json)
      (rejected : (recordType.type binding.member).decode json = none) :
      Refuses row binding count (.value binding.field.storage binding.field.type)
  | defaultValue {default : Default} {json : Json}
      (omitted : row.member? binding.field.storage = none)
      (declared : binding.field.default? = some default)
      (made : (default.produce count).1 = .ok json)
      (rejected : (recordType.type binding.member).decode json = none) :
      Refuses row binding count (.defaultValue binding.field.storage binding.field.type)
  | defaultFactory {default : Default} {thrown : Thrown}
      (omitted : row.member? binding.field.storage = none)
      (declared : binding.field.default? = some default)
      (threw : (default.produce count).1 = .error thrown) :
      Refuses row binding count (.defaultFactory binding.field.storage thrown)

/-- What reading a field comes to, after so many factories have run. -/
inductive ReadsTo (row : Json) (binding : Binding recordType) (count : Nat)
    (record : Record recordType) : Except RowFault (Record recordType) → Prop
  | decoded {json : Json} {next : Record recordType}
      (supplied : ¬ Unsupplied row binding.field)
      (read : record.decode? binding.member json = some next) :
      ReadsTo row binding count record (.ok next)
  | left (unsupplied : Unsupplied row binding.field) (notKey : binding.field.isKey = false) :
      ReadsTo row binding count record (.ok record)
  | missing (unsupplied : Unsupplied row binding.field) (isKey : binding.field.isKey = true) :
      ReadsTo row binding count record (.error (.missingKey binding.field.storage))
  | refused {fault : RowFault} (refuses : Refuses row binding count fault) :
      ReadsTo row binding count record (.error fault)

theorem decode?_of_decode {member : recordType.Member} {json : Json}
    {value : (recordType.type member).Value}
    (accepted : (recordType.type member).decode json = some value) :
    record.decode? member json = some (record.set member value) := by
  rw [Record.decode?, accepted, Option.map_some]

theorem decode_eq_none_of_decode? {member : recordType.Member} {json : Json}
    (unread : record.decode? member json = none) :
    (recordType.type member).decode json = none :=
  Option.map_eq_none_iff.mp unread

theorem unsupplied_of_hasMember_eq_false {field : Field}
    (omitted : row.hasMember field.storage = false) (undeclared : field.default? = none) :
    Unsupplied row field :=
  ⟨Option.not_isSome_iff_eq_none.mp (ne_true_of_eq_false omitted), undeclared⟩

/-! A field is read from the row, or by its default, or not at all. -/

theorem readField_of_present {json : Json}
    (present : row.member? binding.field.storage = some json) (record : Record recordType)
    (runs : Nat) :
    readField row binding record runs = (accept binding record (.row json), runs) := by
  rw [readField, supply, present]
  rfl

theorem readField_of_default {default : Default}
    (omitted : row.member? binding.field.storage = none)
    (declared : binding.field.default? = some default) (record : Record recordType)
    (runs : Nat) :
    readField row binding record runs =
      ((default.produce runs).1.mapError (.defaultFactory binding.field.storage) >>= fun json =>
        accept binding record (.default json), (default.produce runs).2) := by
  simp only [readField, supply, omitted, declared]
  rcases default.produce runs with ⟨thrown | json, later⟩ <;> rfl

theorem Unsupplied.readField_eq (unsupplied : Unsupplied row binding.field)
    (record : Record recordType) (runs : Nat) :
    readField row binding record runs =
      (if binding.field.isKey then .error (.missingKey binding.field.storage) else .ok record,
        runs) := by
  rw [readField, supply, unsupplied.omitted, unsupplied.undeclared]
  cases binding.field.isKey <;> rfl

theorem snd_readField (row : Json) (binding : Binding recordType) (record : Record recordType)
    (runs : Nat) :
    (readField row binding record runs).2 = runs + factoryRuns row binding.field := by
  cases present : row.member? binding.field.storage with
  | some json => rw [readField_of_present present, factoryRuns, present, Nat.add_zero]
  | none =>
      cases declared : binding.field.default? with
      | none =>
          have unsupplied : Unsupplied row binding.field := ⟨present, declared⟩
          rw [unsupplied.readField_eq, factoryRuns, present, declared, Nat.add_zero]
      | some default =>
          rw [readField_of_default present declared, factoryRuns, present, declared]
          cases default <;> rfl

theorem readsTo_readField (row : Json) (binding : Binding recordType)
    (record : Record recordType) (runs : Nat) :
    ReadsTo row binding runs record (readField row binding record runs).1 := by
  cases present : row.member? binding.field.storage with
  | some json =>
      have supplied : ¬ Unsupplied row binding.field := fun unsupplied =>
        Option.some_ne_none json (present.symm.trans unsupplied.omitted)
      rw [readField_of_present present, accept]
      cases read : record.decode? binding.member json with
      | some next => exact .decoded supplied read
      | none => exact .refused (.value present (decode_eq_none_of_decode? read))
  | none =>
      cases declared : binding.field.default? with
      | none =>
          have unsupplied : Unsupplied row binding.field := ⟨present, declared⟩
          rw [unsupplied.readField_eq]
          cases isKey : binding.field.isKey with
          | true => exact .missing unsupplied isKey
          | false => exact .left unsupplied isKey
      | some default =>
          have supplied : ¬ Unsupplied row binding.field := fun unsupplied =>
            Option.some_ne_none default (declared.symm.trans unsupplied.undeclared)
          rw [readField_of_default present declared]
          rcases produced : default.produce runs with ⟨thrown | json, later⟩
          · exact .refused (.defaultFactory present declared (congrArg Prod.fst produced))
          · change ReadsTo row binding runs record (accept binding record (.default json))
            rw [accept]
            cases read : record.decode? binding.member json with
            | some next => exact .decoded supplied read
            | none =>
                exact .refused (.defaultValue present declared (congrArg Prod.fst produced)
                  (decode_eq_none_of_decode? read))

/-! ## Fields in order -/

/-- The bindings, each with the number of factories that have run before it. -/
def numbered (row : Json) : List (Binding recordType) → Nat → List (Binding recordType × Nat)
  | [], _ => []
  | binding :: rest, runs =>
      (binding, runs) :: numbered row rest (runs + factoryRuns row binding.field)

theorem map_fst_numbered (row : Json) (bindings : List (Binding recordType)) (runs : Nat) :
    (numbered row bindings runs).map Prod.fst = bindings := by
  induction bindings generalizing runs with
  | nil => rfl
  | cons binding rest induction => exact congrArg (binding :: ·) (induction _)

theorem mem_of_mem_numbered {entry : Binding recordType × Nat}
    (among : entry ∈ numbered row bindings runs) : entry.1 ∈ bindings :=
  map_fst_numbered row bindings runs ▸ List.mem_map_of_mem among

theorem exists_mem_numbered (listed : binding ∈ bindings) (runs : Nat) :
    ∃ count, (binding, count) ∈ numbered row bindings runs := by
  rw [← map_fst_numbered row bindings runs] at listed
  rcases List.mem_map.mp listed with ⟨⟨_, count⟩, among, rfl⟩
  exact ⟨count, among⟩

theorem readFields_cons (row : Json) (binding : Binding recordType)
    (rest : List (Binding recordType)) (record : Record recordType) (runs : Nat) :
    readFields row (binding :: rest) record runs =
      match readField row binding record runs with
      | (.ok next, between) => readFields row rest next between
      | (.error fault, between) => (.error fault, between) := by
  simp only [readFields, readField]
  split <;> rename_i read <;> rw [read]

theorem fst_readFields_cons (row : Json) (binding : Binding recordType)
    (rest : List (Binding recordType)) (record : Record recordType) (runs : Nat) :
    (readFields row (binding :: rest) record runs).1 =
      (readField row binding record runs).1 >>= fun next =>
        (readFields row rest next (readField row binding record runs).2).1 := by
  rw [readFields_cons]
  rcases readField row binding record runs with ⟨fault | next, later⟩ <;> rfl

theorem readFields_append (row : Json) (front back : List (Binding recordType))
    (record : Record recordType) (runs : Nat) :
    readFields row (front ++ back) record runs =
      match readFields row front record runs with
      | (.ok next, between) => readFields row back next between
      | (.error fault, between) => (.error fault, between) := by
  induction front generalizing record runs with
  | nil => rfl
  | cons binding rest induction =>
      rw [List.cons_append, readFields_cons, readFields_cons]
      rcases readField row binding record runs with ⟨fault | next, between⟩
      · rfl
      · exact induction next between

/-- Fields that are read alike one by one are read alike in order. -/
theorem readFields_map {other : Json} {change : Binding recordType → Binding recordType}
    {bindings : List (Binding recordType)}
    (alike : ∀ binding ∈ bindings, ∀ record runs,
      readField other (change binding) record runs = readField row binding record runs)
    (record : Record recordType) (runs : Nat) :
    readFields other (bindings.map change) record runs = readFields row bindings record runs := by
  induction bindings generalizing record runs with
  | nil => rfl
  | cons binding rest induction =>
      have first := alike binding List.mem_cons_self record runs
      have later := induction fun next listed => alike next (List.mem_cons_of_mem _ listed)
      rw [List.map_cons, readFields_cons, readFields_cons, first]
      rcases readField row binding record runs with ⟨fault | next, between⟩
      · rfl
      · exact later next between

section Lists

variable {rest : List (Binding recordType)}

theorem readFields_cons_eq_ok (read : readFields row (binding :: rest) record runs =
      (.ok result, later)) :
    ∃ next between, ReadsTo row binding runs record (.ok next) ∧
      readFields row rest next between = (.ok result, later) := by
  have first := readsTo_readField row binding record runs
  rw [readFields_cons] at read
  rcases found : readField row binding record runs with ⟨cause | next, between⟩
  · rw [found] at read
    cases read
  · rw [found] at read first
    exact ⟨next, between, first, read⟩

/-- A reading that fails does so at one of the fields. -/
theorem exists_readsTo_of_readFields
    (failed : (readFields row bindings record runs).1 = .error fault) :
    ∃ entry ∈ numbered row bindings runs, ∃ record,
      ReadsTo row entry.1 entry.2 record (.error fault) := by
  induction bindings generalizing record runs with
  | nil => cases failed
  | cons binding rest induction =>
      rw [fst_readFields_cons, bind_eq_error_iff] at failed
      rcases failed with failed | ⟨next, _, failed⟩
      · have first := readsTo_readField row binding record runs
        rw [failed] at first
        exact ⟨(binding, runs), List.mem_cons_self, record, first⟩
      · rw [snd_readField] at failed
        rcases induction failed with ⟨entry, among, cause⟩
        exact ⟨entry, List.mem_cons_of_mem _ among, cause⟩

/-- A reading that succeeds has found a value for every key, in the row or by default. -/
theorem supplied_of_readFields (read : readFields row bindings record runs = (.ok result, later))
    (listed : binding ∈ bindings) (isKey : binding.field.isKey = true) :
    ¬ Unsupplied row binding.field := by
  induction bindings generalizing record runs with
  | nil => cases listed
  | cons head rest induction =>
      rcases readFields_cons_eq_ok read with ⟨next, between, first, others⟩
      rcases List.mem_cons.mp listed with same | listed
      · subst same
        cases first with
        | decoded supplied _ => exact supplied
        | left _ notKey =>
            rw [isKey] at notKey
            cases notKey
      · exact induction others listed

/-- A member keeps its value while the fields are read that are bound to others, or
that nothing supplies. -/
theorem eq_of_readFields (read : readFields row bindings record runs = (.ok result, later))
    {member : recordType.Member}
    (untouched : ∀ binding ∈ bindings, binding.member = member →
      Unsupplied row binding.field) : result member = record member := by
  induction bindings generalizing record runs with
  | nil =>
      cases read
      rfl
  | cons head rest induction =>
      rcases readFields_cons_eq_ok read with ⟨next, between, first, others⟩
      rw [induction others fun other listed => untouched other (List.mem_cons_of_mem _ listed)]
      cases first with
      | left => rfl
      | decoded supplied decoded =>
          have different : member ≠ head.member := fun same =>
            supplied (untouched head List.mem_cons_self same.symm)
          rcases Option.map_eq_some_iff.mp decoded with ⟨value, _, rfl⟩
          exact record.set_of_ne different value

end Lists

end Mapper

end CollectionSchema
