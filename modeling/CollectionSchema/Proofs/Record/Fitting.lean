import CollectionSchema.Proofs.Collection.Containers
import CollectionSchema.Proofs.Dictionary
import CollectionSchema.Proofs.Record.Rereading

/-! # Rows that fit the schema

The names of a definition's fields are distinct, so a mapper that sets one member
after another replaces none of them. Its rows list exactly the fields, in order,
and nothing that a container would refuse.
-/

namespace CollectionSchema

variable {recordType : RecordType} {Payload : Type}

theorem CollectionDefinition.keyName_mem (definition : CollectionDefinition Payload) :
    definition.keyName ∈ definition.storageNames true := by
  rw [storageNames_true]
  exact List.mem_map_of_mem (List.get_mem _ _)

namespace Mapper

/-! ## Members in order -/

/-- The member that a binding adds to the row of a record. -/
def entry (record : Record recordType) (binding : Binding recordType) : Text × Json :=
  (binding.field.storage, record.encode binding.member)

/-- Bindings whose names are new to an object add their members at its end. -/
theorem writeOnto_object {record : Record recordType} {bindings : List (Binding recordType)}
    {members : List (Text × Json)}
    (distinct : (Dictionary.keys members ++ storageNames bindings).Nodup) :
    writeOnto record bindings (.object members) =
      .object (members ++ bindings.map (entry record)) := by
  induction bindings generalizing members with
  | nil => rw [List.map_nil, List.append_nil, writeOnto, List.foldl_nil]
  | cons binding rest induction =>
      have absent : binding.field.storage ∉ Dictionary.keys members := fun present =>
        (List.nodup_append.mp distinct).2.2 _ present _ List.mem_cons_self rfl
      have added : (Json.object members).set binding.field.storage
          (record.encode binding.member) = .object (members ++ [entry record binding]) :=
        congrArg Json.object (Dictionary.set_of_notMem absent _)
      have later : (Dictionary.keys (members ++ [entry record binding]) ++
          storageNames rest).Nodup := by
        rw [Dictionary.keys, List.map_append, List.append_assoc]
        exact distinct
      calc writeOnto record (binding :: rest) (.object members)
          = writeOnto record rest (.object (members ++ [entry record binding])) :=
            congrArg (writeOnto record rest) added
        _ = .object (members ++ [entry record binding] ++ rest.map (entry record)) :=
            induction later
        _ = .object (members ++ (binding :: rest).map (entry record)) := by
            rw [List.append_assoc, List.map_cons, List.singleton_append]

theorem writeRow_eq {mapper : Mapper recordType Payload} (wellBound : mapper.WellBound)
    (record : Record recordType) :
    mapper.writeRow record = .object (mapper.bindings.map (entry record)) := by
  have distinct : (storageNames mapper.bindings).Nodup :=
    wellBound.storageNames_eq ▸ wellBound.distinct
  have written : writeOnto record mapper.bindings (.object []) =
      .object ([] ++ mapper.bindings.map (entry record)) := writeOnto_object distinct
  exact written

theorem keys_writeRow {mapper : Mapper recordType Payload} (wellBound : mapper.WellBound)
    (record : Record recordType) :
    (mapper.writeRow record).keys = mapper.definition.storageNames true := by
  rw [CollectionDefinition.storageNames_true, ← wellBound.storageNames_eq,
    writeRow_eq wellBound]
  exact List.map_map

theorem checkRow_writeRow {mapper : Mapper recordType Payload} (wellBound : mapper.WellBound)
    (record : Record recordType) (position : Nat) :
    mapper.definition.checkRow position (mapper.writeRow record) = .ok () := by
  have keyed : (mapper.writeRow record).hasMember mapper.definition.keyName = true := by
    rw [Json.hasMember_iff, keys_writeRow wellBound]
    exact mapper.definition.keyName_mem
  rw [CollectionDefinition.checkRow_eq_ok_iff, CollectionDefinition.rowFault?,
    keysFault?_writeRow wellBound, keyed]
  rfl

/-! ## Rows of records -/

theorem members_of_bind {descriptor : RecordDescriptor recordType}
    {definition : CollectionDefinition Payload} {mapper : Mapper recordType Payload}
    (bound : descriptor.bind (some definition) = .ok mapper) :
    ∀ binding ∈ mapper.bindings,
      descriptor.member? binding.field.property = some binding.member := by
  intro binding listed
  rcases exists_source_of_mapM (RecordDescriptor.bind_eq_ok_iff.mp bound).2 listed with
    ⟨field, _, made⟩
  rcases RecordDescriptor.bindField_eq_ok_iff.mp made with ⟨rfl, found⟩
  exact found

/-- The row lists the fields of the definition, each with the member that is bound to
it, and a container takes it. -/
structure Fits (descriptor : RecordDescriptor recordType)
    (definition : CollectionDefinition Payload) (record : Record recordType) (row : Json) :
    Prop where
  keys : row.keys = definition.storageNames true
  members : ∀ field ∈ definition.fields, ∃ member,
    descriptor.member? field.property = some member ∧
      row.member? field.storage = some (record.encode member)
  checked : ∀ position, definition.checkRow position row = .ok ()

theorem Fits.member?_eq {descriptor : RecordDescriptor recordType}
    {definition : CollectionDefinition Payload} {record : Record recordType} {row : Json}
    (fits : Fits descriptor definition record row) {field : Field}
    (listed : field ∈ definition.fields) {member : recordType.Member}
    (found : descriptor.member? field.property = some member) :
    row.member? field.storage = some (record.encode member) := by
  rcases fits.members field listed with ⟨other, same, held⟩
  rw [found] at same
  cases same
  exact held

theorem fits_writeRow {draft : Draft Payload} {definition : CollectionDefinition Payload}
    {descriptor : RecordDescriptor recordType} {mapper : Mapper recordType Payload}
    (built : draft.build = .ok definition)
    (bound : descriptor.bind (some definition) = .ok mapper) (record : Record recordType) :
    Fits descriptor definition record (mapper.writeRow record) := by
  have wellBound := wellBound_of_bind built bound
  have members := members_of_bind bound
  rcases (RecordDescriptor.bind_eq_ok_iff.mp bound).1 with rfl
  refine ⟨keys_writeRow wellBound record, ?_, checkRow_writeRow wellBound record⟩
  intro field listed
  rw [← wellBound.fields] at listed
  rcases List.mem_map.mp listed with ⟨binding, among, rfl⟩
  exact ⟨binding.member, members binding among, member?_writeRow wellBound record among⟩

namespace Bound

/-- A mapper over a definition that was built writes any records to rows that fit the
definition, one for each record, and they go through a container unchanged. -/
theorem serialize_fits {draft : Draft Payload} {definition : CollectionDefinition Payload}
    {descriptor : RecordDescriptor recordType} {mapper : Mapper recordType Payload}
    (built : draft.build = .ok definition)
    (bound : descriptor.bind (some definition) = .ok mapper)
    (records : List (Record recordType)) :
    ∃ rows, serialize (.ok mapper) records = .ok rows ∧
      List.Forall₂ (Fits descriptor definition) records rows ∧
      (definition.containerMode = true → definition.hooks? = none →
        ∃ container, definition.pack rows = .ok container ∧
          definition.unpack container records.length = .ok rows) := by
  have fit : List.Forall₂ (Fits descriptor definition) records
      (records.map mapper.writeRow) := by
    rw [List.forall₂_map_right_iff, List.forall₂_same]
    exact fun record _ => fits_writeRow built bound record
  refine ⟨records.map mapper.writeRow, serialize_ok mapper records, fit, ?_⟩
  intro mode unhooked
  have checked : definition.Checked (records.map mapper.writeRow) := by
    intro row listed
    rcases List.mem_map.mp listed with ⟨record, _, rfl⟩
    exact (fits_writeRow built bound record).checked
  have counted : CollectionDefinition.Counted records.length (records.map mapper.writeRow) :=
    fun _ => congrArg Nat.cast (List.length_map _)
  refine ⟨.rows (records.map mapper.writeRow), ?_, ?_⟩
  · rw [CollectionDefinition.pack_eq_ok_iff, CollectionDefinition.Packs, unhooked]
    exact ⟨mode, checked, rfl⟩
  · rw [CollectionDefinition.unpack_eq_ok_iff, CollectionDefinition.Yields, unhooked]
    exact ⟨mode, rfl, counted, checked⟩

/-! Two notes have other members set, and keep the initial values of the rest. -/

def scored : Record note :=
  ((Record.initial note).set .id ("a" : Text)).set .score ⟨7, by decide, by decide⟩

def remarked : Record note :=
  ((Record.initial note).set .id ("b" : Text)).set .remark (some ("late" : Text))

theorem packed_notes : ∃ definition mapper first second container,
    ({ noteDraft with containerMode := true } : Draft Empty).build = .ok definition ∧
      noteDescriptor.bind (some definition) = .ok mapper ∧
      serialize (.ok mapper) [scored, remarked] = .ok [first, second] ∧
      first.keys = (["id", "points", "remark", "embedding"] : List Text) ∧
      first.member? "points" = some (.int 7) ∧ first.member? "remark" = some .null ∧
      second.member? "points" = some (.int 0) ∧
      second.member? "remark" = some (.string "late") ∧
      definition.pack [first, second] = .ok container ∧
      definition.unpack container 2 = .ok [first, second] := by
  rcases (⟨_, _, rfl, rfl⟩ : ∃ definition mapper,
    ({ noteDraft with containerMode := true } : Draft Empty).build = .ok definition ∧
      noteDescriptor.bind (some definition) = .ok mapper)
    with ⟨definition, mapper, built, bound⟩
  rcases serialize_fits built bound [scored, remarked] with ⟨rows, written, fit, through⟩
  rcases fit with _ | ⟨first, _ | ⟨second, _ | _⟩⟩
  cases built
  rcases through rfl rfl with ⟨container, packed, unpacked⟩
  have score : noteDescriptor.member? "score" = some .score := rfl
  have remark : noteDescriptor.member? "remark" = some .remark := rfl
  exact ⟨_, mapper, _, _, container, rfl, bound, written, first.keys,
    first.member?_eq (.tail _ (.head _)) score,
    first.member?_eq (.tail _ (.tail _ (.head _))) remark,
    second.member?_eq (.tail _ (.head _)) score,
    second.member?_eq (.tail _ (.tail _ (.head _))) remark, packed, unpacked⟩

end Bound

end Mapper

end CollectionSchema
