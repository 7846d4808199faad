import CollectionSchema.Proofs.Record.RowChecks

/-! # What a row reads as

A row reads if and only if every field that it lists, or that has a default, gives a
value that the member takes, and the key is among these. The record then has that value
for each member, the later field deciding where two go to one member, and the initial
value for all others.
-/

namespace CollectionSchema

variable {recordType : RecordType} {Payload : Type}

namespace Mapper

variable {row : Json} {binding : Binding recordType} {record result : Record recordType}
  {bindings : List (Binding recordType)} {runs count later : Nat}

/-! ## One field -/

/-- The field gives its member the value, from the row or else by its default, which is
asked after so many factories have run. -/
inductive Gives (row : Json) (binding : Binding recordType) (count : Nat)
    (value : (recordType.type binding.member).Value) : Prop
  | listed {json : Json} (present : row.member? binding.field.storage = some json)
      (accepted : (recordType.type binding.member).decode json = some value)
  | produced {default : Default} {json : Json}
      (omitted : row.member? binding.field.storage = none)
      (declared : binding.field.default? = some default)
      (made : (default.produce count).1 = .ok json)
      (accepted : (recordType.type binding.member).decode json = some value)

theorem Gives.readField_eq {value : (recordType.type binding.member).Value}
    (gives : Gives row binding runs value) (record : Record recordType) :
    (readField row binding record runs).1 = .ok (record.set binding.member value) := by
  cases gives with
  | listed present accepted =>
      rw [readField_of_present present, accept, decode?_of_decode accepted]
  | produced omitted declared made accepted =>
      rw [readField_of_default omitted declared, made]
      change accept binding record (.default _) = _
      rw [accept, decode?_of_decode accepted]

theorem exists_gives_of_readField
    (read : (readField row binding record runs).1 = .ok result) :
    (∃ value, Gives row binding runs value) ∨ Unsupplied row binding.field := by
  cases present : row.member? binding.field.storage with
  | some json =>
      rw [readField_of_present present, accept, Record.decode?] at read
      cases accepted : (recordType.type binding.member).decode json with
      | some value => exact .inl ⟨value, .listed present accepted⟩
      | none =>
          rw [accepted] at read
          cases read
  | none =>
      cases declared : binding.field.default? with
      | none => exact .inr ⟨present, declared⟩
      | some default =>
          rw [readField_of_default present declared] at read
          rcases bind_eq_ok_iff.mp read with ⟨json, made, taken⟩
          rw [accept, Record.decode?] at taken
          cases accepted : (recordType.type binding.member).decode json with
          | some value =>
              exact .inl ⟨value, .produced present declared (mapError_eq_ok_iff.mp made) accepted⟩
          | none =>
              rw [accepted] at taken
              cases taken

/-! ## Fields in order -/

theorem fst_readFields_cons_eq_ok_iff {rest : List (Binding recordType)} :
    (readFields row (binding :: rest) record runs).1 = .ok result ↔
      ∃ next, (readField row binding record runs).1 = .ok next ∧
        (readFields row rest next (runs + factoryRuns row binding.field)).1 = .ok result := by
  rw [fst_readFields_cons, bind_eq_ok_iff, snd_readField]

/-- A field gives a value, or leaves its member as it is. -/
def Settles (row : Json) (entry : Binding recordType × Nat) : Prop :=
  (∃ value, Gives row entry.1 entry.2 value) ∨
    Unsupplied row entry.1.field ∧ entry.1.field.isKey = false

theorem exists_readField_iff :
    (∃ next, (readField row binding record runs).1 = .ok next) ↔ Settles row (binding, runs) := by
  constructor
  · intro read
    rcases read with ⟨next, read⟩
    rcases exists_gives_of_readField read with gives | unsupplied
    · exact .inl gives
    · rw [unsupplied.readField_eq] at read
      cases isKey : binding.field.isKey with
      | false => exact .inr ⟨unsupplied, isKey⟩
      | true =>
          rw [isKey] at read
          cases read
  · intro settles
    rcases settles with ⟨value, gives⟩ | ⟨unsupplied, notKey⟩
    · exact ⟨_, gives.readField_eq record⟩
    · rw [unsupplied.readField_eq, notKey]
      exact ⟨record, rfl⟩

/-- The fields are read in order, so each is asked after the factories before it have run. -/
theorem exists_readFields_iff :
    (∃ result, (readFields row bindings record runs).1 = .ok result) ↔
      ∀ entry ∈ numbered row bindings runs, Settles row entry := by
  induction bindings generalizing record runs with
  | nil => simp [readFields, numbered]
  | cons binding rest induction =>
      rw [numbered, List.forall_mem_cons]
      constructor
      · intro read
        rcases read with ⟨result, read⟩
        rcases fst_readFields_cons_eq_ok_iff.mp read with ⟨next, first, others⟩
        exact ⟨exists_readField_iff.mp ⟨next, first⟩, induction.mp ⟨result, others⟩⟩
      · intro settle
        rcases exists_readField_iff.mpr settle.1 with ⟨next, first⟩
        rcases induction.mpr settle.2 with ⟨result, others⟩
        exact ⟨result, fst_readFields_cons_eq_ok_iff.mpr ⟨next, first, others⟩⟩

/-- The last field that gives a member a value decides. -/
theorem eq_of_gives {front back : List (Binding recordType × Nat)}
    {value : (recordType.type binding.member).Value}
    (read : (readFields row bindings record runs).1 = .ok result)
    (split : numbered row bindings runs = front ++ (binding, count) :: back)
    (gives : Gives row binding count value)
    (last : ∀ entry ∈ back, entry.1.member = binding.member → Unsupplied row entry.1.field) :
    result binding.member = value := by
  induction bindings generalizing record runs front with
  | nil => cases front <;> cases split
  | cons head rest induction =>
      rcases fst_readFields_cons_eq_ok_iff.mp read with ⟨next, first, others⟩
      rw [numbered] at split
      cases front with
      | nil =>
          cases split
          have given := gives.readField_eq record
          rw [first] at given
          cases given
          rw [eq_of_readFields (Prod.ext others rfl), Record.set_self]
          intro other listed same
          rcases exists_mem_numbered listed (count + factoryRuns row binding.field) with
            ⟨number, among⟩
          exact last (other, number) among same
      | cons entry front => exact induction others (List.cons.inj split).2

/-! ## Rows -/

/-- The row is one that reads, where so many factories have run before. -/
structure Readable (mapper : Mapper recordType Payload) (row : Json) (runs : Nat) : Prop
    extends mapper.definition.Recognized row where
  listed : ∀ binding ∈ mapper.bindings, ∀ json,
    row.member? binding.field.storage = some json →
      ∃ value, (recordType.type binding.member).decode json = some value
  defaults : ∀ binding count, (binding, count) ∈ numbered row mapper.bindings runs →
    row.member? binding.field.storage = none → ∀ default, binding.field.default? = some default →
      ∃ json value, (default.produce count).1 = .ok json ∧
        (recordType.type binding.member).decode json = some value
  keyed : row.hasMember mapper.definition.keyName = true ∨
    mapper.definition.keyField.default?.isSome = true

section

variable {mapper : Mapper recordType Payload}

theorem Readable.settles (readable : mapper.Readable row runs)
    (keys : ∀ binding ∈ mapper.bindings, binding.field.isKey = true →
      binding.field = mapper.definition.keyField) :
    ∀ entry ∈ numbered row mapper.bindings runs, Settles row entry := by
  rintro ⟨binding, count⟩ among
  have bound : binding ∈ mapper.bindings := mem_of_mem_numbered among
  cases present : row.member? binding.field.storage with
  | some json =>
      rcases readable.listed binding bound json present with ⟨value, accepted⟩
      exact .inl ⟨value, .listed present accepted⟩
  | none =>
      cases declared : binding.field.default? with
      | some default =>
          rcases readable.defaults binding count among present default declared with
            ⟨json, value, made, accepted⟩
          exact .inl ⟨value, .produced present declared made accepted⟩
      | none =>
          refine .inr ⟨⟨present, declared⟩, Bool.eq_false_of_not_eq_true fun isKey => ?_⟩
          have same := keys binding bound isKey
          rw [same] at present declared
          have keyed := readable.keyed
          rw [CollectionDefinition.keyName, Json.hasMember, present, declared] at keyed
          rcases keyed with keyed | keyed <;> cases keyed

theorem readable_of_settles (recognized : mapper.definition.Recognized row)
    (settle : ∀ entry ∈ numbered row mapper.bindings runs, Settles row entry)
    (keyed : ¬ Unsupplied row mapper.definition.keyField) : mapper.Readable row runs where
  toRecognized := recognized
  listed binding bound json present := by
    rcases exists_mem_numbered bound runs with ⟨count, among⟩
    rcases settle _ among with ⟨value, gives⟩ | ⟨unsupplied, _⟩
    · cases gives with
      | listed found accepted =>
          cases present.symm.trans found
          exact ⟨value, accepted⟩
      | produced omitted => cases present.symm.trans omitted
    · cases present.symm.trans unsupplied.omitted
  defaults binding count among omitted default declared := by
    rcases settle _ among with ⟨value, gives⟩ | ⟨unsupplied, _⟩
    · cases gives with
      | listed found => cases omitted.symm.trans found
      | produced _ same made accepted =>
          cases declared.symm.trans same
          exact ⟨_, value, made, accepted⟩
    · cases declared.symm.trans unsupplied.undeclared
  keyed := by
    by_contra neither
    rw [not_or, Bool.not_eq_true, Option.isSome_iff_ne_none, not_not] at neither
    exact keyed (unsupplied_of_hasMember_eq_false neither.1 neither.2)

theorem fst_readRow_eq_ok_iff {position : Nat} :
    (mapper.readRow position row runs).1 = .ok result ↔ mapper.definition.Recognized row ∧
      (readFields row mapper.bindings (.initial recordType) runs).1 = .ok result := by
  constructor
  · intro succeeded
    rcases readRow_eq_ok_iff.mp (Prod.ext succeeded rfl) with ⟨recognized, fields⟩
    exact ⟨recognized, congrArg Prod.fst fields⟩
  · intro parts
    exact congrArg Prod.fst (readRow_eq_ok_iff.mpr ⟨parts.1, Prod.ext parts.2 rfl⟩)

theorem exists_fault_of_readRow {position : Nat} {error : RowError}
    (failed : (mapper.readRow position row runs).1 = .error error) :
    ∃ fault, error = ⟨position, fault⟩ := by
  cases found : mapper.definition.keysFault? row with
  | some fault =>
      rw [readRow_of_keysFault found] at failed
      exact ⟨fault, (Except.error.inj failed).symm⟩
  | none =>
      have recognized := CollectionDefinition.keysFault?_eq_none_iff.mp found
      rcases (readRow_eq_error_iff recognized).mp failed with ⟨fault, _, same⟩
      exact ⟨fault, same⟩

theorem exists_readRow_iff {position : Nat} (wellBound : mapper.WellBound)
    (only : mapper.definition.fields.filter Field.isKey = [mapper.definition.keyField]) :
    (∃ record, (mapper.readRow position row runs).1 = .ok record) ↔
      mapper.Readable row runs := by
  constructor
  · intro succeeded
    rcases succeeded with ⟨record, succeeded⟩
    rcases fst_readRow_eq_ok_iff.mp succeeded with ⟨recognized, fields⟩
    apply readable_of_settles recognized (exists_readFields_iff.mp ⟨record, fields⟩)
    exact keyed_of_readRow wellBound only (Prod.ext succeeded rfl)
  · intro readable
    have settle := readable.settles fun binding bound => wellBound.eq_keyField only bound
    rcases exists_readFields_iff.mpr settle with ⟨record, fields⟩
    exact ⟨record, fst_readRow_eq_ok_iff.mpr ⟨readable.toRecognized, fields⟩⟩

end

/-! ## Rows in another order -/

theorem readFields_congr {other : Json} (same : ∀ key, row.member? key = other.member? key)
    (record : Record recordType) :
    readFields row bindings record runs = readFields other bindings record runs := by
  have alike : ∀ binding ∈ bindings, ∀ (record : Record recordType) (runs : Nat),
      readField row (id binding) record runs = readField other binding record runs := by
    intro binding _ record runs
    rw [id, readField, supply, same, readField, supply]
  have read := readFields_map alike record runs
  rw [List.map_id] at read
  exact read

theorem fst_readRow_eq_ok_iff_of_perm {mapper : Mapper recordType Payload}
    {members others : List (Text × Json)} {position : Nat}
    (wellFormed : Dictionary.WellFormed members) (perm : members.Perm others) :
    (mapper.readRow position (.object members) runs).1 = .ok result ↔
      (mapper.readRow position (.object others) runs).1 = .ok result := by
  have named : ∀ key, key ∈ (Json.object members).keys ↔ key ∈ (Json.object others).keys :=
    fun key => (perm.map Prod.fst).mem_iff
  have recognized : mapper.definition.Recognized (.object members) ↔
      mapper.definition.Recognized (.object others) := by
    constructor
    · exact fun recognized => ⟨rfl, fun key listed => recognized.named key ((named key).mpr listed)⟩
    · exact fun recognized => ⟨rfl, fun key listed => recognized.named key ((named key).mp listed)⟩
  have same : ∀ key, (Json.object members).member? key = (Json.object others).member? key :=
    Dictionary.get?_eq_of_perm wellFormed perm
  rw [fst_readRow_eq_ok_iff, fst_readRow_eq_ok_iff, recognized, readFields_congr same]

/-! ## Records -/

namespace Bound

theorem fst_deserializeRecord_eq_ok_iff {mapper : Mapper recordType Payload} {position : Nat} :
    (deserializeRecord (.ok mapper) position row runs).1 = .ok result ↔
      (mapper.readRow position row runs).1 = .ok result := by
  rw [deserializeRecord, mapError_eq_ok_iff]

/-- A row reads if and only if it is an object without other keys than names of fields,
the values that it has and those of the defaults that are asked are all accepted, and the
key is there or has a default. The record has the value of the last field that gives one
to a member, and the initial value where none does. A failure names the position of the
row and leaves the caller's record as it was. The order of the row's members is of no
account. -/
theorem deserialized_record {draft : Draft Payload} {definition : CollectionDefinition Payload}
    {descriptor : RecordDescriptor recordType} {mapper : Mapper recordType Payload}
    (built : draft.build = .ok definition)
    (bound : descriptor.bind (some definition) = .ok mapper)
    (position : Nat) (row : Json) (runs : Nat) (held : Record recordType) :
    let read := (deserializeRecord (.ok mapper) position row runs).1
    ((∃ record, read = .ok record) ↔ mapper.Readable row runs) ∧
    (∀ record, read = .ok record → assign held read = record ∧
      (∀ front binding count back value,
        numbered row mapper.bindings runs = front ++ (binding, count) :: back →
        Gives row binding count value →
        (∀ entry ∈ back, entry.1.member = binding.member → Unsupplied row entry.1.field) →
        record binding.member = value) ∧
      ∀ member, (∀ binding ∈ mapper.bindings, binding.member = member →
        Unsupplied row binding.field) → record member = recordType.initial member) ∧
    (∀ error, read = .error error → assign held read = held ∧ ∃ rest,
      error.status = .failure .serialization ("Row " ++ Text.ofNat position ++ ": " ++ rest)) ∧
    ∀ members others, row = .object members → Dictionary.WellFormed members →
      members.Perm others → ∀ record, read = .ok record ↔
        (deserializeRecord (.ok mapper) position (.object others) runs).1 = .ok record := by
  have wellBound := wellBound_of_bind built bound
  have only := (Draft.build_eq_ok_iff.mp built).filter_isKey
  rcases (RecordDescriptor.bind_eq_ok_iff.mp bound).1 with rfl
  intro read
  refine ⟨?_, ?_, ?_, ?_⟩
  · simp only [read, fst_deserializeRecord_eq_ok_iff]
    exact exists_readRow_iff wellBound only
  · intro record succeeded
    have fields := (fst_readRow_eq_ok_iff.mp (fst_deserializeRecord_eq_ok_iff.mp succeeded)).2
    refine ⟨by rw [succeeded]; rfl, ?_, ?_⟩
    · intro front binding count back value split gives last
      exact eq_of_gives fields split gives last
    · intro member untouched
      exact eq_of_readFields (Prod.ext fields rfl) untouched
  · intro error failed
    refine ⟨by rw [failed]; rfl, ?_⟩
    rcases deserializeRecord_eq_error_iff.mp failed with ⟨cause, unread, rfl⟩
    rcases exists_fault_of_readRow unread with ⟨fault, rfl⟩
    exact ⟨fault.message, rfl⟩
  · intro members others same wellFormed perm record
    subst same
    simp only [read, fst_deserializeRecord_eq_ok_iff]
    exact fst_readRow_eq_ok_iff_of_perm wellFormed perm

/-! A note without a score is numbered, whatever the order of its row. A remark that is a
flag does not read. -/

def unscored : Json := .object [("remark", .null), ("id", .string "a")]

def flagged : Json := .object [("id", .string "a"), ("remark", .bool true)]

theorem deserialized_note : ∃ definition mapper record error rest,
    noteDraft.build = .ok definition ∧ noteDescriptor.bind (some definition) = .ok mapper ∧
      mapper.Readable unscored 3 ∧
      (deserializeRecord (.ok mapper) 7 (.object [("id", .string "a"), ("remark", .null)]) 3).1 =
        .ok record ∧
      record.encode .score = .int 3 ∧ record .cached = true ∧
      ¬ mapper.Readable flagged 3 ∧
      (deserializeRecord (.ok mapper) 7 flagged 3).1 = .error error ∧
      error.status = .failure .serialization ("Row " ++ Text.ofNat 7 ++ ": " ++ rest) := by
  rcases (⟨_, _, _, _, rfl, rfl, rfl, rfl⟩ : ∃ definition mapper record error,
    noteDraft.build = .ok definition ∧ noteDescriptor.bind (some definition) = .ok mapper ∧
      (deserializeRecord (.ok mapper) 7 unscored 3).1 = .ok record ∧
      (deserializeRecord (.ok mapper) 7 flagged 3).1 = .error error)
    with ⟨definition, mapper, record, error, built, bound, read, failed⟩
  rcases deserialized_record built bound 7 unscored 3 (.initial note) with
    ⟨success, values, _, order⟩
  rcases deserialized_record built bound 7 flagged 3 (.initial note) with
    ⟨flaggedSuccess, _, failure, _⟩
  have reordered := (order _ _ rfl (by decide) (.swap _ _ _) record).mp read
  rcases values record read with ⟨_, given, initial⟩
  rcases failure error failed with ⟨_, rest, status⟩
  have unreadable : ¬ mapper.Readable flagged 3 := by
    intro readable
    rcases flaggedSuccess.mpr readable with ⟨_, succeeded⟩
    cases failed.symm.trans succeeded
  refine ⟨definition, mapper, record, error, rest, built, bound, success.mp ⟨record, read⟩,
    reordered, ?_, ?_, unreadable, failed, status⟩
  · cases built
    cases bound
    have score := given [_] _ _ _ _ rfl (.produced rfl rfl rfl rfl) (by decide)
    exact congrArg (note.type .score).encode score
  · cases built
    cases bound
    refine initial .cached fun binding listed same => ?_
    have among := List.mem_map_of_mem (f := Binding.member) listed
    rw [same] at among
    change NoteMember.cached ∈ [NoteMember.id, .score, .remark, .embedding] at among
    exact absurd among (by decide)

end Bound

end Mapper

end CollectionSchema
