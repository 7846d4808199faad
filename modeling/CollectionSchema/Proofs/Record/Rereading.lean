import CollectionSchema.Proofs.Record.Reading
import CollectionSchema.Proofs.Record.Writing
import CollectionSchema.Proofs.Value.Representation

/-! # Records that were read

Whatever a member of a record that was read got its value from, the row or a
default, it was decoded, and the other members have their initial values. Such a
record is written to rows that give it back, and no default has a part in that.
-/

namespace CollectionSchema

variable {recordType : RecordType} {Payload : Type}

/-! ## Reading one row -/

namespace Record

/-- The bound members come back from the row form of the record. -/
def Representable (record : Record recordType) (bindings : List (Binding recordType)) : Prop :=
  ∀ binding ∈ bindings,
    (recordType.type binding.member).Representable (record binding.member)

theorem eq_set_of_decode? {record result : Record recordType} {member : recordType.Member}
    {json : Json} (read : record.decode? member json = some result) :
    ∃ value, (recordType.type member).Representable value ∧ result = record.set member value := by
  rcases Option.map_eq_some_iff.mp read with ⟨value, decoded, equal⟩
  exact ⟨value, ValueType.representable_of_decode decoded, equal.symm⟩

theorem representable_set {record : Record recordType} {bindings : List (Binding recordType)}
    (representable : record.Representable bindings) {member : recordType.Member}
    {value : (recordType.type member).Value}
    (valueRepresentable : (recordType.type member).Representable value) :
    (record.set member value).Representable bindings := by
  intro binding listed
  by_cases equal : binding.member = member
  · rw [equal, set_self]
    exact valueRepresentable
  · rw [set_of_ne _ equal]
    exact representable binding listed

end Record

namespace Mapper

/-- Representable members stay representable while the fields are read. -/
theorem representable_of_readFields {all : List (Binding recordType)} {row : Json}
    {bindings : List (Binding recordType)} {record result : Record recordType}
    {runs later : Nat} (representable : record.Representable all)
    (read : readFields row bindings record runs = (.ok result, later)) :
    result.Representable all := by
  induction bindings generalizing record runs with
  | nil =>
      cases read
      exact representable
  | cons binding rest induction =>
      rcases readFields_cons_eq_ok read with ⟨next, between, first, others⟩
      apply induction _ others
      cases first with
      | left => exact representable
      | decoded _ decoded =>
          rcases Record.eq_set_of_decode? decoded with ⟨value, valueRepresentable, rfl⟩
          exact Record.representable_set representable valueRepresentable

/-! ## Reading a written row

The row supplies every field, so neither defaults nor initial values are asked for. -/

theorem readFields_of_supplied {row : Json} {bindings : List (Binding recordType)}
    {record start : Record recordType} (representable : record.Representable bindings)
    (supplied : ∀ binding ∈ bindings,
      row.member? binding.field.storage = some (record.encode binding.member))
    (elsewhere : ∀ member, member ∉ bindings.map Binding.member →
      start member = record member) (runs : Nat) :
    readFields row bindings start runs = (.ok record, runs) := by
  induction bindings generalizing start with
  | nil =>
      have same : start = record := funext fun member => elsewhere member List.not_mem_nil
      rw [same]
      rfl
  | cons binding rest induction =>
      have accepted : (recordType.type binding.member).decode (record.encode binding.member) =
          some (record binding.member) := representable binding List.mem_cons_self
      rw [readFields_cons, readField_of_present (supplied binding List.mem_cons_self), accept,
        decode?_of_decode accepted]
      apply induction (fun other listed => representable other (List.mem_cons_of_mem _ listed))
        fun other listed => supplied other (List.mem_cons_of_mem _ listed)
      intro member notLater
      by_cases equal : member = binding.member
      · subst equal
        exact start.set_self _ _
      · rw [start.set_of_ne equal]
        apply elsewhere
        intro listed
        rcases List.mem_cons.mp listed with first | later
        · exact equal first
        · exact notLater later

/-- What every record that a mapper reads is like. -/
structure Reproduces (mapper : Mapper recordType Payload) (record : Record recordType) :
    Prop where
  representable : record.Representable mapper.bindings
  elsewhere : ∀ member, member ∉ mapper.bindings.map Binding.member →
    recordType.initial member = record member

theorem readRow_writeRow {mapper : Mapper recordType Payload} (wellBound : mapper.WellBound)
    {record : Record recordType} (reproduces : mapper.Reproduces record)
    (position runs : Nat) :
    mapper.readRow position (mapper.writeRow record) runs = (.ok record, runs) := by
  have read : readFields (mapper.writeRow record) mapper.bindings (.initial recordType) runs =
      (.ok record, runs) :=
    readFields_of_supplied reproduces.representable
      (fun binding listed => member?_writeRow wellBound record listed) reproduces.elsewhere runs
  rw [readRow, keysFault?_writeRow wellBound record]
  simp only [read]
  rfl

theorem readRows_map_writeRow {mapper : Mapper recordType Payload}
    (wellBound : mapper.WellBound) {records : List (Record recordType)}
    (reproduce : ∀ record ∈ records, mapper.Reproduces record) (position runs : Nat) :
    mapper.readRows position (records.map mapper.writeRow) runs = (.ok records, runs) := by
  induction records generalizing position with
  | nil => rfl
  | cons record rest induction =>
      have first := readRow_writeRow wellBound (reproduce record List.mem_cons_self)
        position runs
      have others := induction
        (fun other listed => reproduce other (List.mem_cons_of_mem _ listed)) (position + 1)
      rw [List.map_cons, readRows]
      simp only [first, others]
      rfl

/-! ## Every record that was read -/

theorem reproduces_of_readRow {mapper : Mapper recordType Payload}
    (initials : (Record.initial recordType).Representable mapper.bindings) {position : Nat}
    {row : Json} {record : Record recordType} {runs later : Nat}
    (read : mapper.readRow position row runs = (.ok record, later)) :
    mapper.Reproduces record := by
  simp only [readRow] at read
  split at read
  · cases read
  · rw [Prod.mk.injEq, mapError_eq_ok_iff] at read
    have fields : readFields row mapper.bindings (.initial recordType) runs =
        (.ok record, later) := Prod.ext read.1 read.2
    refine ⟨representable_of_readFields initials fields, fun member unbound => ?_⟩
    apply (eq_of_readFields fields _).symm
    intro binding listed same
    exact absurd (List.mem_map.mpr ⟨binding, listed, same⟩) unbound

theorem readRows_cons_eq_ok {mapper : Mapper recordType Payload} {position : Nat} {row : Json}
    {rest : List Json} {records : List (Record recordType)} {runs later : Nat}
    (read : mapper.readRows position (row :: rest) runs = (.ok records, later)) :
    ∃ record between others, records = record :: others ∧
      mapper.readRow position row runs = (.ok record, between) ∧
      mapper.readRows (position + 1) rest between = (.ok others, later) := by
  simp only [readRows] at read
  split at read
  · cases read
  · rename_i record first
    rcases tail : mapper.readRows (position + 1) rest (mapper.readRow position row runs).2
      with ⟨_ | others, last⟩
    · simp [tail, Except.map] at read
    · simp only [tail, Except.map, Prod.mk.injEq, Except.ok.injEq] at read
      rcases read with ⟨rfl, rfl⟩
      exact ⟨record, _, others, rfl, Prod.ext first rfl, tail⟩

theorem reproduce_of_readRows {mapper : Mapper recordType Payload}
    (initials : (Record.initial recordType).Representable mapper.bindings) {position : Nat}
    {rows : List Json} {records : List (Record recordType)} {runs later : Nat}
    (read : mapper.readRows position rows runs = (.ok records, later)) :
    ∀ record ∈ records, mapper.Reproduces record := by
  induction rows generalizing position records runs with
  | nil =>
      cases read
      exact fun record listed => absurd listed List.not_mem_nil
  | cons row rest induction =>
      rcases readRows_cons_eq_ok read with ⟨record, between, others, rfl, first, tail⟩
      intro other listed
      rcases List.mem_cons.mp listed with equal | listed
      · subst equal
        exact reproduces_of_readRow initials first
      · exact induction tail other listed

/-! ## Without defaults

A mapper whose defaults are replaced by others writes the same rows and reads
them as well, so a reading that comes out the same asked no default. -/

def withDefaults (mapper : Mapper recordType Payload) (defaults : Field → Option Default) :
    Mapper recordType Payload :=
  let change (field : Field) : Field := { field with default? := defaults field }
  { definition := {
      mapper.definition with
      fields := mapper.definition.fields.map change
      keyIndex_lt := by
        rw [List.length_map]
        exact mapper.definition.keyIndex_lt }
    bindings := mapper.bindings.map fun binding => ⟨change binding.field, binding.member⟩ }

theorem WellBound.withDefaults {mapper : Mapper recordType Payload}
    (wellBound : mapper.WellBound) (defaults : Field → Option Default) :
    (mapper.withDefaults defaults).WellBound := by
  constructor
  · simp [Mapper.withDefaults, ← wellBound.fields]
  · have distinct := wellBound.distinct
    simp only [Mapper.withDefaults, List.map_map]
    exact distinct

theorem Reproduces.withDefaults {mapper : Mapper recordType Payload}
    {record : Record recordType} (reproduces : mapper.Reproduces record)
    (defaults : Field → Option Default) :
    (mapper.withDefaults defaults).Reproduces record where
  representable binding listed := by
    rcases List.mem_map.mp listed with ⟨source, sourceListed, rfl⟩
    exact reproduces.representable source sourceListed
  elsewhere member unbound := by
    apply reproduces.elsewhere member
    intro listed
    apply unbound
    simp only [Mapper.withDefaults, List.map_map]
    exact listed

theorem writeRow_withDefaults (mapper : Mapper recordType Payload)
    (defaults : Field → Option Default) :
    (mapper.withDefaults defaults).writeRow = mapper.writeRow := by
  funext record
  simp [writeRow, withDefaults, List.foldl_map]

/-! ## Batches -/

namespace Bound

theorem serialize_ok (mapper : Mapper recordType Payload)
    (records : List (Record recordType)) :
    serialize (.ok mapper) records = .ok (records.map mapper.writeRow) := by
  rw [serialize, mapM_eq_ok_iff, List.map_map]
  rfl

theorem deserialize_ok (mapper : Mapper recordType Payload) (rows : List Json) (runs : Nat) :
    deserialize (.ok mapper) rows runs =
      ((mapper.readRows 0 rows runs).1.mapError .row, (mapper.readRows 0 rows runs).2) := by
  cases rows <;> rfl

theorem deserialize_ok_eq_ok_iff {mapper : Mapper recordType Payload} {rows : List Json}
    {records : List (Record recordType)} {runs later : Nat} :
    deserialize (.ok mapper) rows runs = (.ok records, later) ↔
      mapper.readRows 0 rows runs = (.ok records, later) := by
  rw [deserialize_ok, Prod.mk.injEq, mapError_eq_ok_iff, ← Prod.mk.injEq]

/-- The records that a mapper has read are written to rows that it reads as the same
records, whatever defaults its fields have by then; none of them is run. -/
theorem reread_of_deserialize {draft : Draft Payload}
    {definition : CollectionDefinition Payload} {descriptor : RecordDescriptor recordType}
    {mapper : Mapper recordType Payload} {rows : List Json}
    {records : List (Record recordType)} {runs later : Nat}
    (built : draft.build = .ok definition)
    (bound : descriptor.bind (some definition) = .ok mapper)
    (initials : (Record.initial recordType).Representable mapper.bindings)
    (read : deserialize (.ok mapper) rows runs = (.ok records, later)) :
    ∃ rewritten, serialize (.ok mapper) records = .ok rewritten ∧
      ∀ again, deserialize (.ok mapper) rewritten again = (.ok records, again) ∧
        ∀ defaults, deserialize (.ok (mapper.withDefaults defaults)) rewritten again =
          (.ok records, again) := by
  have wellBound := wellBound_of_bind built bound
  have reproduce := reproduce_of_readRows initials (deserialize_ok_eq_ok_iff.mp read)
  refine ⟨records.map mapper.writeRow, serialize_ok mapper records, ?_⟩
  intro again
  constructor
  · rw [deserialize_ok_eq_ok_iff]
    exact readRows_map_writeRow wellBound reproduce 0 again
  · intro defaults
    rw [deserialize_ok_eq_ok_iff, ← mapper.writeRow_withDefaults defaults]
    exact readRows_map_writeRow (wellBound.withDefaults defaults)
      (fun record listed => (reproduce record listed).withDefaults defaults) 0 again

/-! A collection of notes numbers those that come without a score, and knows nothing
of a member that the program keeps for itself. -/

inductive NoteMember
  | id
  | score
  | remark
  | embedding
  | cached
deriving DecidableEq

def note : RecordType where
  Member := NoteMember
  decidableEq := inferInstance
  type
    | .id => .string
    | .score => .integer ⟨false, .w64⟩
    | .remark => .optional .string
    | .embedding => .vectorOrText .single
    | .cached => .bool
  initial
    | .id => .empty
    | .score => IntegerKind.zero ⟨false, .w64⟩
    | .remark => none
    | .embedding => .text "pending"
    | .cached => true

def noteDescriptor : RecordDescriptor note where
  typeName := "Note"
  declarations := [
    .marked "id" .id ⟨"key", .empty⟩ none,
    .marked "score" .score ⟨"data", .empty⟩ none,
    .marked "remark" .remark ⟨"data", .empty⟩ none,
    .marked "embedding" .embedding ⟨"vector", .empty⟩ none,
    .plain "cached" .bool]

def noteDraft : Draft Empty where
  name := "notes"
  fields := [
    { role := .key, property := "id", type := .string },
    { property := "score", storage := "points", type := .integer .w64,
      default? := some (.factory fun runs => .ok (.int (Int64.ofNat runs))) },
    { property := "remark", type := .string },
    { role := .vector, property := "embedding", dimensions := 2,
      type := .vectorOrText .single }]

theorem reread_notes : ∃ definition mapper records rewritten,
    noteDraft.build = .ok definition ∧ noteDescriptor.bind (some definition) = .ok mapper ∧
      deserialize (.ok mapper)
        [.object [("id", .string "a")],
          .object [("remark", .string "late"), ("embedding", .array [.int 1, .int 2]),
            ("points", .int 7), ("id", .string "b")]] 3 = (.ok records, 4) ∧
      serialize (.ok mapper) records = .ok rewritten ∧
      deserialize (.ok mapper) rewritten 9 = (.ok records, 9) := by
  rcases (⟨_, _, _, rfl, rfl, rfl⟩ : ∃ definition mapper records,
    noteDraft.build = .ok definition ∧ noteDescriptor.bind (some definition) = .ok mapper ∧
      deserialize (.ok mapper)
        [.object [("id", .string "a")],
          .object [("remark", .string "late"), ("embedding", .array [.int 1, .int 2]),
            ("points", .int 7), ("id", .string "b")]] 3 = (.ok records, 4))
    with ⟨definition, mapper, records, built, bound, read⟩
  have initials : (Record.initial note).Representable mapper.bindings := by
    intro binding _
    rcases binding with ⟨field, member⟩
    cases member <;> rfl
  rcases reread_of_deserialize built bound initials read with ⟨rewritten, written, again⟩
  exact ⟨definition, mapper, records, rewritten, built, bound, read, written, (again 9).1⟩

end Bound

end Mapper

end CollectionSchema
