import CollectionSchema.Proofs.Collection.Documents
import CollectionSchema.Proofs.Record.RowChecks

/-! # Records under a loaded definition

A definition that was written to a document and loaded again binds the same members
under the same names, so records are written, checked and read as before. Only the
defaults are lost, and a row that carries their fields does not ask for them.
-/

namespace CollectionSchema

variable {recordType : RecordType} {Payload : Type}

namespace CollectionDefinition

/-- The definition with fields that have no defaults. -/
def withoutDefaults (definition : CollectionDefinition Payload) : CollectionDefinition Payload :=
  { definition with
    fields := definition.fields.map fun field => { field with default? := none }
    keyIndex_lt := by
      rw [List.length_map]
      exact definition.keyIndex_lt }

variable (definition : CollectionDefinition Payload)

/-- A document does not tell whether there were defaults. -/
theorem documented_withoutDefaults :
    definition.withoutDefaults.documented = definition.documented := by
  simp only [documented, withoutDefaults, List.map_map, mk.injEq, and_true, true_and]
  exact List.map_congr_left fun field _ => rfl

/-! ## Row checks -/

theorem storageNames_documented :
    definition.documented.storageNames true = definition.storageNames true := by
  rw [storageNames_true, storageNames_true, documented, List.map_map]
  exact List.map_congr_left fun field _ => rfl

theorem keyName_documented : definition.documented.keyName = definition.keyName := by
  simp only [keyName, keyField, documented, List.get_eq_getElem, List.getElem_map]
  rfl

theorem keysFault?_documented (row : Json) :
    definition.documented.keysFault? row = definition.keysFault? row := by
  have unknown : ∀ key, (definition.documented.rowField? key).isNone =
      (definition.rowField? key).isNone := by
    intro key
    rw [Bool.eq_iff_iff, isNone_rowField?_iff, isNone_rowField?_iff, storageNames_documented]
  simp only [keysFault?, unknown]

theorem checkRow_documented (position : Nat) (row : Json) :
    definition.documented.checkRow position row = definition.checkRow position row := by
  rw [checkRow, checkRow, rowFault?, rowFault?, keysFault?_documented, keyName_documented]

end CollectionDefinition

/-! ## Mappers -/

/-- The binding as it is under a definition that was loaded. -/
def Binding.bare (binding : Binding recordType) : Binding recordType :=
  ⟨binding.field.bare, binding.member⟩

def Mapper.documented (mapper : Mapper recordType Payload) : Mapper recordType Payload :=
  ⟨mapper.definition.documented, mapper.bindings.map Binding.bare⟩

theorem RecordDescriptor.bindField_bare (descriptor : RecordDescriptor recordType)
    (definitionName : Text) (field : Field) :
    descriptor.bindField definitionName field.bare =
      (descriptor.bindField definitionName field).map Binding.bare := by
  simp only [bindField, Field.bare]
  cases descriptor.member? field.property <;> rfl

theorem RecordDescriptor.bind_documented (descriptor : RecordDescriptor recordType)
    (definition : CollectionDefinition Payload) :
    descriptor.bind (some definition.documented) =
      (descriptor.bind (some definition)).map Mapper.documented := by
  have bindings : definition.documented.fields.mapM (descriptor.bindField definition.name) =
      (definition.fields.mapM (descriptor.bindField definition.name)).map
        (List.map Binding.bare) := by
    rw [CollectionDefinition.documented, List.mapM_map, ← mapM_map_results]
    exact congrArg (List.mapM · definition.fields)
      (funext (descriptor.bindField_bare definition.name))
  change (definition.documented.fields.mapM (descriptor.bindField definition.name) >>= _) = _
  rw [bindings, bind]
  cases definition.fields.mapM (descriptor.bindField definition.name) <;> rfl

namespace Mapper

theorem writeRow_documented (mapper : Mapper recordType Payload) :
    mapper.documented.writeRow = mapper.writeRow := by
  funext record
  simp only [writeRow, documented, List.foldl_map]
  rfl

section Reading

variable {row : Json} {bindings : List (Binding recordType)}

/-- A field that has no default, or does not ask for it, is read as before. -/
theorem supply_bare {field : Field}
    (carried : field.default?.isSome = true → row.hasMember field.storage = true) (runs : Nat) :
    supply field.bare row runs = supply field row runs := by
  cases present : row.member? field.storage with
  | some json => simp only [supply, Field.bare, present]
  | none =>
      have undeclared : field.default? = none := by
        rw [← Option.not_isSome_iff_eq_none]
        intro declared
        have keyed := carried declared
        rw [Json.hasMember, present] at keyed
        cases keyed
      simp only [supply, Field.bare, present, undeclared]
      rfl

theorem readFields_bare
    (carried : ∀ binding ∈ bindings, binding.field.default?.isSome = true →
      row.hasMember binding.field.storage = true)
    (record : Record recordType) (runs : Nat) :
    readFields row (bindings.map Binding.bare) record runs =
      readFields row bindings record runs := by
  apply readFields_map
  intro binding listed record runs
  rw [readField, Binding.bare, supply_bare (carried binding listed)]
  rfl

end Reading

theorem readRow_documented {mapper : Mapper recordType Payload} {row : Json}
    (carried : ∀ binding ∈ mapper.bindings, binding.field.default?.isSome = true →
      row.hasMember binding.field.storage = true) (position runs : Nat) :
    mapper.documented.readRow position row runs = mapper.readRow position row runs := by
  simp only [readRow, documented, CollectionDefinition.keysFault?_documented,
    readFields_bare carried]

/-- Under a loaded definition nothing but the row supplies a field. -/
theorem unsupplied_bare {row : Json} {binding : Binding recordType}
    (omitted : row.hasMember binding.field.storage = false) :
    Unsupplied row binding.bare.field :=
  unsupplied_of_hasMember_eq_false omitted rfl

section Omitted

variable {mapper : Mapper recordType Payload} {row : Json} {record : Record recordType}
  {position runs later : Nat} {binding : Binding recordType}

theorem hasMember_of_readRow_documented
    (read : mapper.documented.readRow position row runs = (.ok record, later))
    (listed : binding ∈ mapper.bindings) (isKey : binding.field.isKey = true) :
    row.hasMember binding.field.storage = true := by
  rw [← Bool.not_eq_false]
  intro omitted
  have supplied := supplied_of_readFields (readRow_eq_ok_iff.mp read).2
    (List.mem_map_of_mem listed) isKey
  exact supplied (unsupplied_bare omitted)

theorem eq_initial_of_readRow_documented
    (read : mapper.documented.readRow position row runs = (.ok record, later))
    {member : recordType.Member}
    (omitted : ∀ binding ∈ mapper.bindings, binding.member = member →
      row.hasMember binding.field.storage = false) : record member = recordType.initial member := by
  apply eq_of_readFields (readRow_eq_ok_iff.mp read).2
  intro binding listed same
  rcases List.mem_map.mp listed with ⟨source, among, rfl⟩
  exact unsupplied_bare (omitted source among same)

end Omitted

/-! ## Mappers that may not have bound -/

namespace Bound

variable (descriptor : RecordDescriptor recordType) (definition : CollectionDefinition Payload)

theorem bind_documented_eq_error_iff {error : BindingError} :
    descriptor.bind (some definition.documented) = .error error ↔
      descriptor.bind (some definition) = .error error := by
  rw [descriptor.bind_documented]
  cases descriptor.bind (some definition) <;> simp [Except.map]

theorem serialize_documented (records : List (Record recordType)) :
    serialize (descriptor.bind (some definition.documented)) records =
      serialize (descriptor.bind (some definition)) records := by
  have each : serializeRecord (descriptor.bind (some definition.documented)) =
      serializeRecord (descriptor.bind (some definition)) := by
    rw [descriptor.bind_documented]
    cases descriptor.bind (some definition) with
    | error error => rfl
    | ok mapper =>
        funext record
        exact congrArg (fun write => Except.ok (write record)) mapper.writeRow_documented
  rw [serialize, serialize, each]

theorem deserializeRecord_documented
    {definition : CollectionDefinition Payload} {row : Json}
    (carried : ∀ field ∈ definition.fields, field.default?.isSome = true →
      row.hasMember field.storage = true) (position runs : Nat) :
    deserializeRecord (descriptor.bind (some definition.documented)) position row runs =
      deserializeRecord (descriptor.bind (some definition)) position row runs := by
  rw [descriptor.bind_documented]
  cases bound : descriptor.bind (some definition) with
  | error error => rfl
  | ok mapper =>
      have carriedBound : ∀ binding ∈ mapper.bindings, binding.field.default?.isSome = true →
          row.hasMember binding.field.storage = true := by
        intro binding listed
        apply carried
        rw [← RecordDescriptor.fields_of_bind bound]
        exact List.mem_map_of_mem listed
      simp only [Except.map, deserializeRecord, readRow_documented carriedBound]

end Bound

end Mapper

/-! ## Standing in -/

namespace CollectionDefinition

open Mapper.Bound

/-- A definition that was loaded from the document of another binds records and writes
them as the other does, and checks rows as it does. It reads every row as the other
would without its defaults, and so as the other does if the row carries their fields.
Where the row omits a field the member keeps its initial value, as long as no other
field of the row is bound to it, and where it omits the key it is refused. -/
theorem reloaded_stands_in {draft : Draft Payload}
    {definition reloaded : CollectionDefinition Payload}
    (built : draft.build = .ok definition)
    (loaded : ofJson draft.options definition.toJson = .ok reloaded)
    (descriptor : RecordDescriptor recordType) :
    let original := descriptor.bind (some definition)
    let replacement := descriptor.bind (some reloaded)
    (∀ error, replacement = .error error ↔ original = .error error) ∧
    (∀ records, serialize replacement records = serialize original records) ∧
    (∀ position row, reloaded.checkRow position row = definition.checkRow position row) ∧
    (∀ position row runs,
      (∀ field ∈ definition.fields, field.default?.isSome = true →
        row.hasMember field.storage = true) →
      deserializeRecord replacement position row runs =
        deserializeRecord original position row runs) ∧
    ∀ position row runs,
      let read := deserializeRecord replacement position row runs
      read = deserializeRecord (descriptor.bind (some definition.withoutDefaults))
        position row runs ∧
      ∀ mapper, original = .ok mapper → ∀ binding ∈ mapper.bindings,
        row.hasMember binding.field.storage = false →
        (binding.field.isKey = true → ∃ error, read.1 = .error error) ∧
        ∀ record, read.1 = .ok record →
          (∀ other ∈ mapper.bindings, other.member = binding.member →
            row.hasMember other.field.storage = false) →
          record binding.member = recordType.initial binding.member := by
  rcases (ofJson_toJson_iff (Draft.build_eq_ok_iff.mp built)).mp loaded with ⟨_, rfl⟩
  refine ⟨fun error => bind_documented_eq_error_iff descriptor definition,
    serialize_documented descriptor definition, definition.checkRow_documented,
    fun position row runs carried => deserializeRecord_documented descriptor carried position runs,
    ?_⟩
  intro position row runs read
  refine ⟨?_, ?_⟩
  · have undeclared : ∀ field ∈ definition.withoutDefaults.fields,
        field.default?.isSome = true → row.hasMember field.storage = true := by
      intro field listed declared
      rcases List.mem_map.mp listed with ⟨source, _, rfl⟩
      cases declared
    rw [← deserializeRecord_documented descriptor undeclared, documented_withoutDefaults]
  · intro mapper bound binding listed omitted
    have under : read = deserializeRecord (.ok mapper.documented) position row runs := by
      change deserializeRecord (descriptor.bind (some definition.documented)) _ _ _ = _
      rw [descriptor.bind_documented, bound]
      rfl
    rw [under]
    refine ⟨?_, ?_⟩
    · intro isKey
      cases outcome : (deserializeRecord (.ok mapper.documented) position row runs).1 with
      | error error => exact ⟨error, rfl⟩
      | ok record =>
          have keyed := Mapper.hasMember_of_readRow_documented
            (deserializeRecord_eq_ok_iff.mp (Prod.ext outcome rfl)) listed isKey
          rw [omitted] at keyed
          cases keyed
    · intro record succeeded alone
      exact Mapper.eq_initial_of_readRow_documented
        (deserializeRecord_eq_ok_iff.mp (Prod.ext succeeded rfl)) alone

/-- A loaded definition of notes asks for the id, and no longer numbers those without a score. -/
theorem reloaded_stands_in_notes : ∃ definition, ∃ reloaded : CollectionDefinition Empty,
    ∃ mapper, noteDraft.build = .ok definition ∧
      ofJson noteDraft.options definition.toJson = .ok reloaded ∧
      noteDescriptor.bind (some definition) = .ok mapper ∧
      let replacement := noteDescriptor.bind (some reloaded)
      let scored : Json := .object [("id", .string "a"), ("points", .int 7)]
      let unscored : Json := .object [("id", .string "a")]
      deserializeRecord replacement 0 scored 3 = deserializeRecord (.ok mapper) 0 scored 3 ∧
      (deserializeRecord (.ok mapper) 0 unscored 3).2 = 4 ∧
      (∃ record, deserializeRecord replacement 0 unscored 3 = (.ok record, 3) ∧
        record .score = note.initial .score) ∧
      ∃ error, (deserializeRecord replacement 0 (.object []) 3).1 = .error error := by
  rcases (⟨_, _, _, rfl, rfl, rfl, rfl, rfl, ⟨_, .head _, rfl⟩, ⟨_, .tail _ (.head _), rfl⟩,
      rfl, _, rfl⟩ : ∃ definition, ∃ reloaded : CollectionDefinition Empty, ∃ mapper,
    noteDraft.build = .ok definition ∧
      ofJson noteDraft.options definition.toJson = .ok reloaded ∧
      noteDescriptor.bind (some definition) = .ok mapper ∧
      (definition.fields.filter (·.default?.isSome)).map Field.storage = [Text.ofString "points"] ∧
      mapper.bindings.all (fun binding => match (binding.member : NoteMember) with
        | .score => decide (binding.field.storage = "points")
        | _ => true) = true ∧
      (∃ key ∈ mapper.bindings, key.field.isKey = true) ∧
      (∃ binding ∈ mapper.bindings, binding.member = NoteMember.score) ∧
      (deserializeRecord (.ok mapper) 0 (.object [("id", .string "a")]) 3).2 = 4 ∧
      ∃ record, deserializeRecord (noteDescriptor.bind (some reloaded)) 0
        (.object [("id", .string "a")]) 3 = (.ok record, 3))
    with ⟨definition, reloaded, mapper, built, loaded, bound, defaults, members,
      ⟨key, bindsKey, isKey⟩, ⟨binding, listed, same⟩, numbered, record, read⟩
  rcases reloaded_stands_in built loaded noteDescriptor with ⟨_, _, _, carried, omitting⟩
  have unscored : ∀ other ∈ mapper.bindings, other.member = binding.member →
      (Json.object [("id", .string "a")]).hasMember other.field.storage = false := by
    intro other among shared
    have stored := List.all_eq_true.mp members other among
    rw [shared.trans same] at stored
    rw [of_decide_eq_true stored]
    rfl
  refine ⟨definition, reloaded, mapper, built, loaded, bound, ?_, numbered,
    ⟨record, read, ?_⟩, ?_⟩
  · rw [← bound]
    apply carried
    intro field among declared
    have stored : field.storage ∈ [Text.ofString "points"] :=
      defaults ▸ List.mem_map_of_mem (List.mem_filter.mpr ⟨among, declared⟩)
    rw [List.mem_singleton.mp stored]
    rfl
  · rw [← same]
    exact ((omitting 0 _ 3).2 mapper bound binding listed (unscored binding listed rfl)).2 record
      (congrArg Prod.fst read) unscored
  · exact ((omitting 0 _ 3).2 mapper bound key bindsKey rfl).1 isKey

end CollectionDefinition

end CollectionSchema
