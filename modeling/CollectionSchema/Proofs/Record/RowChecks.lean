import CollectionSchema.Proofs.Collection.Containers
import CollectionSchema.Proofs.Record.Fitting
import CollectionSchema.Proofs.Record.Reading

/-! # Row checks

A row is checked before it goes into a container, and checked again where a record is
read from it. The two checks differ in nothing but a key that the row omits: to a
container it must be there, while reading can take it from a default.
-/

namespace CollectionSchema

variable {recordType : RecordType} {Payload : Type}

/-! ## The check of a container -/

namespace CollectionDefinition

variable {definition : CollectionDefinition Payload} {row : Json} {position : Nat}

/-- The row is an object that has no other keys than the names of fields. -/
structure Recognized (definition : CollectionDefinition Payload) (row : Json) : Prop where
  object : row.isObject = true
  named : ∀ key ∈ row.keys, key ∈ definition.storageNames true

theorem isNone_rowField?_iff {key : Text} :
    (definition.rowField? key).isNone = true ↔ key ∉ definition.storageNames true := by
  rw [storageNames_true, ← rowField?_isSome_iff, Option.isNone_iff_eq_none,
    Option.not_isSome_iff_eq_none]

theorem keysFault?_eq_none_iff :
    definition.keysFault? row = none ↔ definition.Recognized row := by
  rw [keysFault?]
  cases object : row.isObject with
  | false =>
      rw [Bool.not_false, if_pos rfl]
      exact iff_of_false (Option.some_ne_none _) fun recognized =>
        Bool.false_ne_true (object.symm.trans recognized.object)
  | true =>
      rw [Bool.not_true, if_neg Bool.false_ne_true, Option.map_eq_none_iff, List.find?_eq_none]
      constructor
      · intro all
        refine ⟨object, fun key listed => ?_⟩
        exact not_not.mp fun unknown => all key listed (isNone_rowField?_iff.mpr unknown)
      · intro recognized key listed unknown
        exact isNone_rowField?_iff.mp unknown (recognized.named key listed)

theorem checkRow_of_keysFault {fault : RowFault} (found : definition.keysFault? row = some fault) :
    definition.checkRow position row = .error ⟨position, fault⟩ := by
  rw [checkRow, rowFault?, found]
  rfl

theorem checkRow_of_recognized (recognized : definition.Recognized row) :
    definition.checkRow position row =
      if row.hasMember definition.keyName then .ok ()
      else .error ⟨position, .missingKey definition.keyName⟩ := by
  rw [checkRow, rowFault?, keysFault?_eq_none_iff.mpr recognized]
  cases row.hasMember definition.keyName <;> rfl

theorem checkRow_eq_ok_iff_recognized :
    definition.checkRow position row = .ok () ↔
      definition.Recognized row ∧ row.hasMember definition.keyName = true := by
  cases found : definition.keysFault? row with
  | some fault =>
      rw [checkRow_of_keysFault found, ← keysFault?_eq_none_iff, found]
      exact iff_of_false nofun nofun
  | none =>
      have recognized := keysFault?_eq_none_iff.mp found
      rw [checkRow_of_recognized recognized, and_iff_right recognized]
      cases row.hasMember definition.keyName <;> simp

end CollectionDefinition

/-! ## The key among the fields -/

namespace Mapper

variable {mapper : Mapper recordType Payload} {row : Json} {position runs : Nat}

theorem WellBound.eq_keyField (wellBound : mapper.WellBound)
    (only : mapper.definition.fields.filter Field.isKey = [mapper.definition.keyField])
    {binding : Binding recordType} (listed : binding ∈ mapper.bindings)
    (isKey : binding.field.isKey = true) : binding.field = mapper.definition.keyField := by
  have among : binding.field ∈ mapper.definition.fields.filter Field.isKey := by
    rw [List.mem_filter, ← wellBound.fields]
    exact ⟨List.mem_map_of_mem listed, isKey⟩
  rw [only, List.mem_singleton] at among
  exact among

/-- The key field is bound, and no other key is bound before it. -/
theorem WellBound.exists_key (wellBound : mapper.WellBound)
    (only : mapper.definition.fields.filter Field.isKey = [mapper.definition.keyField]) :
    ∃ before key after, mapper.bindings = before ++ key :: after ∧
      key.field = mapper.definition.keyField ∧ key.field.isKey = true ∧
      ∀ binding ∈ before, binding.field.isKey = false := by
  have keys : mapper.definition.keyField ∈ mapper.definition.fields.filter Field.isKey := by
    rw [only]
    exact List.mem_singleton_self _
  rcases List.mem_filter.mp keys with ⟨among, isKey⟩
  rw [← wellBound.fields] at among
  rcases List.mem_map.mp among with ⟨key, listed, same⟩
  rcases List.append_of_mem listed with ⟨before, after, split⟩
  refine ⟨before, key, after, split, same, same ▸ isKey, ?_⟩
  rw [← wellBound.fields, split, List.map_append, List.map_cons, List.filter_append,
    List.filter_cons_of_pos (same ▸ isKey)] at only
  rcases List.append_eq_singleton_iff.mp only with ⟨none, _⟩ | ⟨_, none⟩
  · intro binding earlier
    exact Bool.eq_false_of_not_eq_true
      (List.filter_eq_nil_iff.mp none _ (List.mem_map_of_mem earlier))
  · cases none

/-! ## The check of a reading -/

theorem readRow_of_keysFault {fault : RowFault}
    (found : mapper.definition.keysFault? row = some fault) :
    mapper.readRow position row runs = (.error ⟨position, fault⟩, runs) := by
  rw [readRow, found]

theorem readRow_of_recognized (recognized : mapper.definition.Recognized row) :
    mapper.readRow position row runs =
      ((readFields row mapper.bindings (.initial recordType) runs).1.mapError (⟨position, ·⟩),
        (readFields row mapper.bindings (.initial recordType) runs).2) := by
  rw [readRow, CollectionDefinition.keysFault?_eq_none_iff.mpr recognized]

theorem readRow_eq_ok_iff {record : Record recordType} {later : Nat} :
    mapper.readRow position row runs = (.ok record, later) ↔
      mapper.definition.Recognized row ∧
        readFields row mapper.bindings (.initial recordType) runs = (.ok record, later) := by
  cases found : mapper.definition.keysFault? row with
  | some fault =>
      rw [readRow_of_keysFault found, ← CollectionDefinition.keysFault?_eq_none_iff, found]
      exact iff_of_false nofun nofun
  | none =>
      have recognized := CollectionDefinition.keysFault?_eq_none_iff.mp found
      rw [readRow_of_recognized recognized, and_iff_right recognized, Prod.mk.injEq,
        mapError_eq_ok_iff, ← Prod.mk.injEq]

theorem readRow_eq_error_iff (recognized : mapper.definition.Recognized row) {error : RowError} :
    (mapper.readRow position row runs).1 = .error error ↔
      ∃ fault, (readFields row mapper.bindings (.initial recordType) runs).1 = .error fault ∧
        error = ⟨position, fault⟩ := by
  rw [readRow_of_recognized recognized, mapError_eq_error_iff]
  exact exists_congr fun fault => and_congr_right fun _ => eq_comm

section Keys

variable (wellBound : mapper.WellBound)
  (only : mapper.definition.fields.filter Field.isKey = [mapper.definition.keyField])

include wellBound only

/-- Where the row has the key, what fails is a field that refuses its value or default. -/
theorem refuses_of_readRow (recognized : mapper.definition.Recognized row)
    (keyed : row.hasMember mapper.definition.keyName = true) {error : RowError}
    (failed : (mapper.readRow position row runs).1 = .error error) :
    ∃ entry ∈ numbered row mapper.bindings runs, ∃ fault,
      Refuses row entry.1 entry.2 fault ∧ error = ⟨position, fault⟩ := by
  rcases (readRow_eq_error_iff recognized).mp failed with ⟨fault, stopped, rfl⟩
  rcases exists_readsTo_of_readFields stopped with ⟨entry, among, _, reads⟩
  cases reads with
  | refused refuses => exact ⟨entry, among, fault, refuses, rfl⟩
  | missing unsupplied isKey =>
      have omitted := unsupplied.omitted
      rw [wellBound.eq_keyField only (mem_of_mem_numbered among) isKey] at omitted
      rw [CollectionDefinition.keyName, Json.hasMember, omitted] at keyed
      cases keyed

/-- Where nothing supplies the key, its lack ends the reading, or a field before it does. -/
theorem readRow_of_unsupplied (recognized : mapper.definition.Recognized row)
    (unsupplied : Unsupplied row mapper.definition.keyField) :
    (mapper.readRow position row runs).1 =
        .error ⟨position, .missingKey mapper.definition.keyName⟩ ∨
      ∃ before key after, mapper.bindings = before ++ key :: after ∧
        key.field = mapper.definition.keyField ∧ ∃ entry ∈ numbered row before runs, ∃ fault,
          Refuses row entry.1 entry.2 fault ∧
            (mapper.readRow position row runs).1 = .error ⟨position, fault⟩ := by
  rcases wellBound.exists_key only with ⟨before, key, after, split, same, isKey, notKeys⟩
  have missing : Unsupplied row key.field := same ▸ unsupplied
  simp only [readRow_eq_error_iff recognized]
  rcases read : readFields row before (.initial recordType) runs with ⟨fault | next, between⟩
  · right
    refine ⟨before, key, after, split, same, ?_⟩
    rcases exists_readsTo_of_readFields (congrArg Prod.fst read) with
      ⟨entry, earlier, _, reads⟩
    cases reads with
    | refused refuses =>
        refine ⟨entry, earlier, fault, refuses, fault, ?_, rfl⟩
        rw [split, readFields_append, read]
    | missing _ alsoKey =>
        rw [notKeys entry.1 (mem_of_mem_numbered earlier)] at alsoKey
        cases alsoKey
  · left
    refine ⟨.missingKey mapper.definition.keyName, ?_, rfl⟩
    rw [split, readFields_append, read]
    simp only [readFields_cons, missing.readField_eq, isKey, if_true]
    rw [same]
    rfl

end Keys

/-- A row that reads has its key, or the key comes from a default. -/
theorem keyed_of_readRow (wellBound : mapper.WellBound)
    (only : mapper.definition.fields.filter Field.isKey = [mapper.definition.keyField])
    {record : Record recordType} {later : Nat}
    (read : mapper.readRow position row runs = (.ok record, later)) :
    ¬ Unsupplied row mapper.definition.keyField := by
  rcases wellBound.exists_key only with ⟨before, key, after, split, same, isKey, _⟩
  have listed : key ∈ mapper.bindings := by
    rw [split]
    exact List.mem_append_right _ List.mem_cons_self
  rw [← same]
  exact supplied_of_readFields (readRow_eq_ok_iff.mp read).2 listed isKey

/-! ## Both checks -/

namespace Bound

section

variable {mapper : Mapper recordType Payload} {position : Nat} {row : Json} {runs : Nat}

theorem deserializeRecord_eq_ok_iff {record : Record recordType} {later : Nat} :
    deserializeRecord (.ok mapper) position row runs = (.ok record, later) ↔
      mapper.readRow position row runs = (.ok record, later) := by
  rw [deserializeRecord, Prod.mk.injEq, mapError_eq_ok_iff, ← Prod.mk.injEq]

theorem deserializeRecord_eq_error_iff {error : MapperError} :
    (deserializeRecord (.ok mapper) position row runs).1 = .error error ↔
      ∃ cause, (mapper.readRow position row runs).1 = .error cause ∧ error = .row cause := by
  rw [deserializeRecord, mapError_eq_error_iff]
  exact exists_congr fun cause => and_congr_right fun _ => eq_comm

theorem deserializeRecord_eq_row_iff {error : RowError} :
    (deserializeRecord (.ok mapper) position row runs).1 = .error (.row error) ↔
      (mapper.readRow position row runs).1 = .error error := by
  rw [deserializeRecord_eq_error_iff]
  constructor
  · intro failed
    rcases failed with ⟨_, failed, same⟩
    cases same
    exact failed
  · intro failed
    exact ⟨error, failed, rfl⟩

end

/-- A container and a mapper refuse a row that is no object or has an unknown key with
the same error, and so they do if it lacks a key that has no default, unless a field
before the key fails. If the container takes the row, reading it fails only for a
field that refuses its value or default, and if a record is read from it, the
container takes it or the key came from a default. -/
theorem row_checks_agree {draft : Draft Payload} {definition : CollectionDefinition Payload}
    {descriptor : RecordDescriptor recordType} {mapper : Mapper recordType Payload}
    (built : draft.build = .ok definition)
    (bound : descriptor.bind (some definition) = .ok mapper)
    (position : Nat) (row : Json) (runs : Nat) :
    let checked := definition.checkRow position row
    let read := (deserializeRecord (.ok mapper) position row runs).1
    (¬ definition.Recognized row →
      ∃ error : RowError, checked = .error error ∧ read = .error (.row error)) ∧
    (definition.Recognized row → row.hasMember definition.keyName = false →
      let missing : RowError := ⟨position, .missingKey definition.keyName⟩
      checked = .error missing ∧
        (definition.keyField.default? = none →
          read = .error (.row missing) ∨
          ∃ before key after, mapper.bindings = before ++ key :: after ∧
            key.field = definition.keyField ∧ ∃ entry ∈ numbered row before runs, ∃ fault,
              Refuses row entry.1 entry.2 fault ∧ read = .error (.row ⟨position, fault⟩))) ∧
    (checked = .ok () → ∀ error, read = .error error →
      ∃ entry ∈ numbered row mapper.bindings runs, ∃ fault,
        Refuses row entry.1 entry.2 fault ∧ error = .row ⟨position, fault⟩) ∧
    ∀ record, read = .ok record →
      checked = .ok () ∨
        row.hasMember definition.keyName = false ∧ definition.keyField.default?.isSome = true := by
  have wellBound := wellBound_of_bind built bound
  have only := (Draft.build_eq_ok_iff.mp built).filter_isKey
  rcases (RecordDescriptor.bind_eq_ok_iff.mp bound).1 with rfl
  refine ⟨?_, ?_, ?_, ?_⟩
  · intro unrecognized
    cases found : mapper.definition.keysFault? row with
    | none => exact absurd (CollectionDefinition.keysFault?_eq_none_iff.mp found) unrecognized
    | some fault =>
        refine ⟨⟨position, fault⟩, CollectionDefinition.checkRow_of_keysFault found, ?_⟩
        rw [deserializeRecord_eq_row_iff, readRow_of_keysFault found]
  · intro recognized omitted missing
    refine ⟨?_, ?_⟩
    · rw [CollectionDefinition.checkRow_of_recognized recognized, omitted,
        if_neg Bool.false_ne_true]
    · intro undeclared
      simp only [deserializeRecord_eq_row_iff]
      exact readRow_of_unsupplied wellBound only recognized
        (unsupplied_of_hasMember_eq_false omitted undeclared)
  · intro passed error failed
    rcases CollectionDefinition.checkRow_eq_ok_iff_recognized.mp passed with
      ⟨recognized, keyed⟩
    rcases deserializeRecord_eq_error_iff.mp failed with ⟨cause, unread, rfl⟩
    rcases refuses_of_readRow wellBound only recognized keyed unread with
      ⟨entry, among, fault, refuses, rfl⟩
    exact ⟨entry, among, fault, refuses, rfl⟩
  · intro record succeeded
    have read := deserializeRecord_eq_ok_iff.mp (Prod.ext succeeded rfl)
    have supplied := keyed_of_readRow wellBound only read
    rw [CollectionDefinition.checkRow_eq_ok_iff_recognized,
      and_iff_right (readRow_eq_ok_iff.mp read).1]
    cases keyed : row.hasMember mapper.definition.keyName with
    | true => exact .inl rfl
    | false =>
        right
        refine ⟨rfl, Option.isSome_iff_ne_none.mpr fun undeclared => supplied ?_⟩
        exact unsupplied_of_hasMember_eq_false keyed undeclared

/-- A note without an id is refused by both; one whose score is a flag only when it is read. -/
theorem row_checks_agree_notes : ∃ definition mapper,
    noteDraft.build = .ok definition ∧ noteDescriptor.bind (some definition) = .ok mapper ∧
      (∃ error, definition.checkRow 3 .null = .error error ∧
        (deserializeRecord (.ok mapper) 3 .null 0).1 = .error (.row error)) ∧
      definition.checkRow 3 (.object []) = .error ⟨3, .missingKey "id"⟩ ∧
      (deserializeRecord (.ok mapper) 3 (.object []) 0).1 =
        .error (.row ⟨3, .missingKey "id"⟩) ∧
      let flagged : Json := .object [("id", .string "a"), ("points", .bool true)]
      definition.checkRow 3 flagged = .ok () ∧
        ∃ entry ∈ numbered flagged mapper.bindings 0, ∃ fault,
          Refuses flagged entry.1 entry.2 fault ∧
          (deserializeRecord (.ok mapper) 3 flagged 0).1 = .error (.row ⟨3, fault⟩) := by
  rcases (⟨_, _, rfl, rfl⟩ : ∃ definition mapper,
    noteDraft.build = .ok definition ∧ noteDescriptor.bind (some definition) = .ok mapper)
    with ⟨definition, mapper, built, bound⟩
  have agree := row_checks_agree built bound 3
  cases built
  cases bound
  have unrecognized := (agree .null 0).1 fun recognized => Bool.false_ne_true recognized.object
  have keyless := (agree (.object []) 0).2.1 ⟨rfl, nofun⟩ rfl
  have refused := (agree (.object [("id", .string "a"), ("points", .bool true)]) 0).2.2.1 rfl _ rfl
  rcases refused with ⟨entry, among, fault, refuses, same⟩
  exact ⟨_, _, rfl, rfl, unrecognized, keyless.1, rfl, rfl, entry, among, fault, refuses,
    congrArg Except.error same⟩

end Bound

end Mapper

end CollectionSchema
