import CollectionSchema.Proofs.Collection.Building
import CollectionSchema.Proofs.Sequence
import CollectionSchema.Record.Mapper

/-! # Rows that mappers write

A mapper binds each field of its definition once, and the storage names are
distinct. So a row that it writes holds every bound member under its own name,
and nothing else.
-/

namespace CollectionSchema

variable {recordType : RecordType} {Payload : Type}

/-! ## Bindings -/

theorem RecordDescriptor.bindField_eq_ok_iff {descriptor : RecordDescriptor recordType}
    {definitionName : Text} {field : Field} {binding : Binding recordType} :
    descriptor.bindField definitionName field = .ok binding ↔
      binding.field = field ∧ descriptor.member? field.property = some binding.member := by
  rcases binding with ⟨bound, member⟩
  simp only [bindField]
  split
  · rename_i found equal
    simp [equal, eq_comm]
  · rename_i missing
    simp [missing]

theorem RecordDescriptor.bind_eq_ok_iff {descriptor : RecordDescriptor recordType}
    {definition : CollectionDefinition Payload} {mapper : Mapper recordType Payload} :
    descriptor.bind (some definition) = .ok mapper ↔ mapper.definition = definition ∧
      definition.fields.mapM (descriptor.bindField definition.name) = .ok mapper.bindings := by
  simp only [bind, CollectionSchema.bind_eq_ok_iff]
  constructor
  · rintro ⟨bindings, made, equal⟩
    cases equal
    exact ⟨rfl, made⟩
  · rintro ⟨rfl, made⟩
    exact ⟨mapper.bindings, made, rfl⟩

theorem RecordDescriptor.fields_of_bind {descriptor : RecordDescriptor recordType}
    {definition : CollectionDefinition Payload} {mapper : Mapper recordType Payload}
    (bound : descriptor.bind (some definition) = .ok mapper) :
    mapper.bindings.map Binding.field = definition.fields :=
  map_eq_of_mapM (fun _ _ made => (bindField_eq_ok_iff.mp made).1) (bind_eq_ok_iff.mp bound).2

namespace Mapper

/-- One binding for each field, in order, and no two under one name. -/
structure WellBound (mapper : Mapper recordType Payload) : Prop where
  fields : mapper.bindings.map Binding.field = mapper.definition.fields
  distinct : (mapper.definition.fields.map Field.storage).Nodup

theorem wellBound_of_bind {draft : Draft Payload} {definition : CollectionDefinition Payload}
    {descriptor : RecordDescriptor recordType} {mapper : Mapper recordType Payload}
    (built : draft.build = .ok definition)
    (bound : descriptor.bind (some definition) = .ok mapper) : mapper.WellBound := by
  have fields := RecordDescriptor.fields_of_bind bound
  rcases (RecordDescriptor.bind_eq_ok_iff.mp bound).1 with rfl
  have yields := Draft.build_eq_ok_iff.mp built
  refine ⟨fields, ?_⟩
  rw [yields.fields, List.map_map]
  exact yields.valid.distinctNames

/-- The names of a mapper's fields in the store. -/
def storageNames (bindings : List (Binding recordType)) : List Text :=
  bindings.map (·.field.storage)

theorem WellBound.storageNames_eq {mapper : Mapper recordType Payload}
    (wellBound : mapper.WellBound) :
    storageNames mapper.bindings = mapper.definition.fields.map Field.storage := by
  rw [← wellBound.fields, List.map_map]
  rfl

/-! ## Members of a written row -/

/-- The row with the members of the given bindings set in turn. -/
def writeOnto (record : Record recordType) (bindings : List (Binding recordType)) (row : Json) :
    Json :=
  bindings.foldl (fun row binding => row.set binding.field.storage (record.encode binding.member))
    row

theorem isObject_writeOnto (record : Record recordType) (bindings : List (Binding recordType))
    (members : List (Text × Json)) :
    (writeOnto record bindings (.object members)).isObject = true := by
  induction bindings generalizing members with
  | nil => rfl
  | cons binding rest induction => exact induction _

theorem member?_writeOnto_of_notMem {record : Record recordType}
    {bindings : List (Binding recordType)} {name : Text}
    (absent : name ∉ storageNames bindings) (row : Json) :
    (writeOnto record bindings row).member? name = row.member? name := by
  induction bindings generalizing row with
  | nil => rfl
  | cons binding rest induction =>
      have different : name ≠ binding.field.storage := fun same =>
        absent (List.mem_cons.mpr (.inl same))
      have later : name ∉ storageNames rest := fun member =>
        absent (List.mem_cons_of_mem _ member)
      exact (induction later _).trans (Json.member?_set_of_ne different row _)

theorem member?_writeOnto {record : Record recordType} {bindings : List (Binding recordType)}
    (distinct : (storageNames bindings).Nodup) {binding : Binding recordType}
    (member : binding ∈ bindings) (members : List (Text × Json)) :
    (writeOnto record bindings (.object members)).member? binding.field.storage =
      some (record.encode binding.member) := by
  induction bindings generalizing members with
  | nil => cases member
  | cons head rest induction =>
      have parts := List.nodup_cons.mp distinct
      rcases List.mem_cons.mp member with equal | later
      · subst equal
        refine (member?_writeOnto_of_notMem parts.1 _).trans ?_
        exact Json.member?_set_self members _ _
      · exact induction parts.2 later _

/-! ## A written row on its way back -/

theorem member?_writeRow {mapper : Mapper recordType Payload} (wellBound : mapper.WellBound)
    (record : Record recordType) {binding : Binding recordType}
    (member : binding ∈ mapper.bindings) :
    (mapper.writeRow record).member? binding.field.storage =
      some (record.encode binding.member) := by
  have distinct : (storageNames mapper.bindings).Nodup :=
    wellBound.storageNames_eq ▸ wellBound.distinct
  exact member?_writeOnto distinct member []

theorem mem_storageNames_of_mem_keys {mapper : Mapper recordType Payload}
    {record : Record recordType} {key : Text} (listed : key ∈ (mapper.writeRow record).keys) :
    key ∈ storageNames mapper.bindings := by
  by_cases named : key ∈ storageNames mapper.bindings
  · exact named
  · have absent : (mapper.writeRow record).member? key = none :=
      member?_writeOnto_of_notMem named (.object [])
    rw [← Json.hasMember_iff, Json.hasMember, absent] at listed
    cases listed

end Mapper

/-- A key names a field exactly if it is one's name in the store. -/
theorem CollectionDefinition.rowField?_isSome_iff {definition : CollectionDefinition Payload}
    {key : Text} :
    (definition.rowField? key).isSome = true ↔ key ∈ definition.fields.map Field.storage := by
  constructor
  · intro found
    rcases Option.isSome_iff_exists.mp found with ⟨field, found⟩
    rcases Option.filter_eq_some_iff.mp found with ⟨found, stored⟩
    have member : field ∈ definition.fields := by
      rcases Option.or_eq_some_iff.mp found with first | ⟨_, second⟩
      · exact List.mem_of_find?_eq_some first
      · exact List.mem_of_find?_eq_some second
    exact List.mem_map.mpr ⟨field, member, of_decide_eq_true stored⟩
  · intro named
    have present : (definition.fields.find? (·.storage = key)).isSome = true := by
      rcases List.mem_map.mp named with ⟨field, member, stored⟩
      exact List.find?_isSome.mpr ⟨field, member, decide_eq_true stored⟩
    rcases Option.isSome_iff_exists.mp present with ⟨field, found⟩
    have stored := List.find?_some found
    simp only [rowField?, field?, found, Option.some_or]
    rw [Option.filter_some, if_pos stored]
    rfl

theorem Mapper.keysFault?_writeRow {mapper : Mapper recordType Payload}
    (wellBound : mapper.WellBound) (record : Record recordType) :
    mapper.definition.keysFault? (mapper.writeRow record) = none := by
  have isObject : (mapper.writeRow record).isObject = true := isObject_writeOnto _ _ _
  have known : ∀ key ∈ (mapper.writeRow record).keys,
      (mapper.definition.rowField? key).isSome = true := by
    intro key listed
    rw [CollectionDefinition.rowField?_isSome_iff, ← wellBound.storageNames_eq]
    exact mem_storageNames_of_mem_keys listed
  rw [CollectionDefinition.keysFault?, isObject, Bool.not_true, if_neg Bool.false_ne_true,
    Option.map_eq_none_iff, List.find?_eq_none]
  intro key listed
  rw [Option.isNone_eq_false_iff.mpr (known key listed)]
  exact Bool.false_ne_true

end CollectionSchema
