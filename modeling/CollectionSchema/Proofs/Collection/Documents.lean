import CollectionSchema.Collection.Source
import CollectionSchema.Proofs.Collection.Building
import CollectionSchema.Proofs.Field.Extraction

/-! # Definitions through documents

The document of a definition loads again, under the options that the definition
was built with, as long as its dimensions fit. The loaded definition is the same
one without what no document holds: hooks, defaults, and attributes of other roles.
-/

namespace CollectionSchema

variable {Payload : Type}

/-! ## Reading a document -/

namespace Draft

/-- The members of a document agree with the parts of a draft. -/
structure Describes (options : ValidationOptions) (json : Json) (draft : Draft Payload) :
    Prop where
  fields : ∃ elements, json.member? "fields" = some (.array elements) ∧
    elements.map Field.ofJson = draft.fields.map .ok
  name : json.ReadsText "name" draft.name
  containerMode : json.ReadsFlag "containerMode" draft.containerMode
  pack : draft.pack? = none
  unpack : draft.unpack? = none
  options : draft.options = options

theorem ofJson_eq_ok_iff {options : ValidationOptions} {json : Json} {draft : Draft Payload} :
    ofJson options json = .ok draft ↔ Describes options json draft := by
  have listed : (json.member "fields").isArray = true ↔
      json.member? "fields" = some (.array (json.member "fields").elements) := by
    cases found : json.member? "fields" with
    | none => simp [Json.member, found, Json.isArray]
    | some value => cases value <;> simp [Json.member, found, Json.isArray, Json.elements]
  simp only [ofJson]
  cases isArray : (json.member "fields").isArray with
  | false =>
      constructor
      · intro read
        cases read
      · intro describes
        rcases describes.fields with ⟨elements, present, _⟩
        simp [Json.member, present, Json.isArray] at isArray
  | true =>
      have present := listed.mp isArray
      simp only [Bool.not_true, Bool.false_eq_true, if_false, bind_eq_ok_iff, mapM_eq_ok_iff]
      constructor
      · intro parts
        rcases parts with ⟨_, name, _, mode, fields, read, equal⟩
        cases equal
        exact {
          fields := ⟨_, present, read⟩
          name := (Json.readsText_iff .collection).mpr ⟨name, rfl⟩
          containerMode := (Json.readsFlag_iff .collection).mpr ⟨mode, rfl⟩
          pack := rfl
          unpack := rfl
          options := rfl }
      · intro describes
        rcases draft with ⟨name, fields, mode, pack?, unpack?, given⟩
        rcases describes with ⟨⟨elements, listed, read⟩, named, flagged, rfl, rfl, rfl⟩
        rcases (Json.readsText_iff .collection).mp named with ⟨nameString, rfl⟩
        rcases (Json.readsFlag_iff .collection).mp flagged with ⟨modeFlag, rfl⟩
        rw [present] at listed
        cases listed
        exact ⟨⟨⟩, nameString, ⟨⟩, modeFlag, fields, read, rfl⟩

end Draft

/-! ## Fields of a definition -/

namespace Draft.Yields

variable {draft : Draft Payload} {definition : CollectionDefinition Payload}

theorem valid_fields (yields : draft.Yields definition) :
    Validation.Valid draft.options definition.fields := by
  rw [yields.fields]
  exact valid_resolvedFields_iff.mpr yields.valid

theorem resolve_eq_self (yields : draft.Yields definition) {field : Field}
    (member : field ∈ definition.fields) : field.resolve = field := by
  rw [yields.fields] at member
  rcases List.mem_map.mp member with ⟨source, _, rfl⟩
  exact source.resolve_resolve

theorem onField_eq_self {type : FieldType} (holds : type.HoldsVector) (role : Role) :
    type.onField role = type := by
  cases type with
  | real precision => simp [FieldType.HoldsVector] at holds
  | _ => cases role <;> rfl

/-- The name and the type of a valid field are written as they are. -/
theorem documented_eq_bare (yields : draft.Yields definition) {field : Field}
    (member : field ∈ definition.fields) : field.documented = field.bare := by
  have type : field.type.onField field.role = field.type := by
    cases role : field.role with
    | vector => exact onField_eq_self (yields.valid_fields.vectors field member role).2 .vector
    | _ => rfl
  rw [Field.documented, type, yields.resolve_eq_self member]
  rfl

theorem fitsDocument_iff (yields : draft.Yields definition) {field : Field}
    (member : field ∈ definition.fields) :
    field.FitsDocument ↔
      (field.role = .vector → field.dimensions.toNat ≤ 0x7FFFFFFFFFFFFFFF) := by
  constructor
  · exact fun fits vector => (fits vector).2
  · intro bounded vector
    have given := (yields.valid_fields.vectors field member vector).1
    have positive : field.dimensions.toNat ≠ 0 := fun zero => given (UInt64.toNat_inj.mp zero)
    exact ⟨Nat.pos_of_ne_zero positive, bounded vector⟩

end Draft.Yields

/-! ## There and back -/

namespace CollectionDefinition

/-- The definition that a document of this one tells of. -/
def documented (definition : CollectionDefinition Payload) : CollectionDefinition Payload :=
  { definition with
    fields := definition.fields.map Field.bare
    keyIndex_lt := by
      rw [List.length_map]
      exact definition.keyIndex_lt
    hooks? := none }

theorem toJson_documented (definition : CollectionDefinition Payload) :
    definition.documented.toJson = definition.toJson := by
  have fields : definition.documented.fields.map Field.toJson =
      definition.fields.map Field.toJson := by
    simp [documented, Field.toJson_bare]
  rw [toJson, fields]
  rfl

/-- The draft that a document of the definition describes. -/
def redraft (options : ValidationOptions) (definition : CollectionDefinition Payload) :
    Draft Payload :=
  { name := definition.name
    fields := definition.fields.map Field.bare
    containerMode := definition.containerMode
    options }

variable {draft : Draft Payload} {definition : CollectionDefinition Payload}

theorem redraft_ofJson_iff (yields : draft.Yields definition) {read : Draft Payload} :
    Draft.ofJson draft.options definition.toJson = .ok read ↔
      (∀ field ∈ definition.fields, field.FitsDocument) ∧
        read = definition.redraft draft.options := by
  have fields : definition.toJson.member? "fields" =
      some (.array (definition.fields.map Field.toJson)) := by
    simp [toJson, Dictionary.get?]
  have name : definition.toJson.member? "name" = some (.string definition.name) := by
    simp [toJson, Dictionary.get?]
  have mode : definition.toJson.member? "containerMode" =
      some (.bool definition.containerMode) := by
    simp [toJson, Dictionary.get?]
  have bare : definition.fields.map Field.documented = definition.fields.map Field.bare :=
    List.map_congr_left fun field member => yields.documented_eq_bare member
  rw [Draft.ofJson_eq_ok_iff]
  constructor
  · intro describes
    rcases read with ⟨_, _, _, _, _, _⟩
    rcases describes with ⟨⟨elements, listed, reads⟩, named, flagged, rfl, rfl, rfl⟩
    rw [Json.ReadsText, name] at named
    rw [Json.ReadsFlag, mode] at flagged
    rw [fields] at listed
    cases listed
    rcases Field.map_ofJson_toJson_iff.mp reads with ⟨fits, rfl⟩
    simp only [Option.some.injEq, Json.string.injEq, Json.bool.injEq, reduceCtorEq, false_and,
      or_false] at named flagged
    rw [redraft, bare, named, flagged]
    exact ⟨fits, rfl⟩
  · intro parts
    rcases parts with ⟨fits, rfl⟩
    exact {
      fields := ⟨_, fields, by rw [Field.map_ofJson_toJson_iff, bare]; exact ⟨fits, rfl⟩⟩
      name := .inl name
      containerMode := .inl mode
      pack := rfl
      unpack := rfl
      options := rfl }

theorem alike_bare (field : Field) : Validation.Alike field field.bare where
  role := rfl
  property := rfl
  name := rfl
  type := rfl
  dimensions vector := if_pos vector

theorem redraft_yields (yields : draft.Yields definition) :
    (definition.redraft draft.options).Yields definition.documented where
  valid := (Validation.valid_map_iff fun field _ => alike_bare field).mpr yields.valid_fields
  hooksInMode none := nomatch none
  name := rfl
  fields := by
    change definition.fields.map Field.bare = (definition.fields.map Field.bare).map Field.resolve
    rw [List.map_map]
    apply List.map_congr_left
    intro field member
    have resolved := congrArg Field.bare (yields.resolve_eq_self member)
    exact resolved.symm
  keyIndex := by
    have moved : Validation.keyIndex? (definition.redraft draft.options).fields =
        Validation.keyIndex? definition.fields :=
      Validation.keyIndex?_map fun field _ => alike_bare field
    rw [moved, yields.fields]
    exact draft.keyIndex?_resolvedFields.trans yields.keyIndex
  containerMode := rfl
  pack := rfl
  unpack := rfl

theorem define_eq_ok_iff {read : CollectionDefinition Payload} :
    draft.define = .ok read ↔ draft.Yields read := by
  rw [Draft.define, mapError_eq_ok_iff, Draft.build_eq_ok_iff]

/-- The loaded definition is the documented one, if anything is loaded. -/
theorem ofJson_toJson_iff (yields : draft.Yields definition)
    {read : CollectionDefinition Payload} :
    ofJson draft.options definition.toJson = .ok read ↔
      (∀ field ∈ definition.fields, field.FitsDocument) ∧ read = definition.documented := by
  have built := define_eq_ok_iff.mpr (redraft_yields yields)
  simp only [ofJson, bind_eq_ok_iff, mapError_eq_ok_iff, redraft_ofJson_iff yields]
  constructor
  · intro parts
    rcases parts with ⟨_, ⟨fits, rfl⟩, made⟩
    rw [built] at made
    exact ⟨fits, (Except.ok.inj made).symm⟩
  · intro parts
    rcases parts with ⟨fits, rfl⟩
    exact ⟨_, ⟨fits, rfl⟩, built⟩

/-- Whatever keeps a definition from loading lies in its document. -/
theorem document_of_ofJson_toJson (yields : draft.Yields definition) {error : DefinitionError}
    (refused : (ofJson draft.options definition.toJson :
      Except DefinitionError (CollectionDefinition Payload)) = .error error) :
    ∃ cause, error = .document cause := by
  have unread : ∀ read : Draft Payload,
      Draft.ofJson draft.options definition.toJson ≠ .ok read := by
    intro read known
    rcases (redraft_ofJson_iff yields).mp known with ⟨fits, _⟩
    rw [(ofJson_toJson_iff yields).mpr ⟨fits, rfl⟩] at refused
    cases refused
  rw [ofJson] at refused
  cases known : (Draft.ofJson draft.options definition.toJson :
      Except DocumentError (Draft Payload)) with
  | error cause =>
      rw [known] at refused
      exact ⟨cause, (Except.error.inj refused).symm⟩
  | ok read => exact absurd known (unread read)

/-- A definition loads again if its draft had no dimensions beyond the signed integers. -/
theorem loads_of_bounded (yields : draft.Yields definition)
    (bounded : ∀ field ∈ draft.fields, field.dimensions.toNat ≤ 0x7FFFFFFFFFFFFFFF) :
    ofJson draft.options definition.toJson = .ok definition.documented := by
  rw [ofJson_toJson_iff yields]
  refine ⟨?_, rfl⟩
  intro field member
  rw [yields.fitsDocument_iff member]
  intro _
  rw [yields.fields] at member
  rcases List.mem_map.mp member with ⟨source, sourceMember, rfl⟩
  exact bounded source sourceMember

theorem extract_eq_ok_iff {options : ValidationOptions} {typeName : Text}
    {descriptors : List FieldDescriptor} :
    extract options typeName descriptors = .ok definition ↔
      ∃ fields, FieldDescriptor.fields descriptors = .ok fields ∧
        ({ name := typeName, fields, options } : Draft Payload).Yields definition := by
  simp only [extract, bind_eq_ok_iff, mapError_eq_ok_iff, define_eq_ok_iff]

theorem loads_of_extract {options : ValidationOptions} {typeName : Text}
    {descriptors : List FieldDescriptor}
    (extracted : extract options typeName descriptors = .ok definition) :
    ofJson options definition.toJson = .ok definition.documented := by
  rcases extract_eq_ok_iff.mp extracted with ⟨fields, read, yields⟩
  exact loads_of_bounded yields fun field member =>
    FieldDescriptor.dimensions_le_of_fields read member

theorem loads_of_ofJson {options : ValidationOptions} {json : Json}
    (loaded : ofJson options json = .ok definition) :
    ofJson options definition.toJson = .ok definition.documented := by
  simp only [ofJson, bind_eq_ok_iff, mapError_eq_ok_iff, define_eq_ok_iff] at loaded
  rcases loaded with ⟨draft, read, yields⟩
  have describes := Draft.ofJson_eq_ok_iff.mp read
  rcases describes.fields with ⟨elements, _, reads⟩
  rw [← describes.options]
  apply loads_of_bounded yields
  intro field member
  rcases exists_source_of_mapM (mapM_eq_ok_iff.mpr reads) member with ⟨element, _, known⟩
  exact Field.dimensions_le_of_ofJson known

/-- A built definition loads from its document, under the same options, exactly if its
vector fields have dimensions that are signed integers. What is loaded differs from it
in nothing that a document holds, and is written as the same document. -/
theorem reload_of_built (options : ValidationOptions) :
    (∀ (draft : Draft Payload) (definition : CollectionDefinition Payload)
        (held : Option (CollectionDefinition Payload)),
      draft.options = options → draft.build = .ok definition →
      let loaded : Except DefinitionError (CollectionDefinition Payload) :=
        ofJson options definition.toJson
      ((∃ reloaded, loaded = .ok reloaded) ↔
        ∀ field ∈ definition.fields, field.role = .vector →
          field.dimensions.toNat ≤ 0x7FFFFFFFFFFFFFFF) ∧
      (∀ error, loaded = .error error →
        error.status.kind? = some .schema ∧ assign held (loaded.map some) = held) ∧
      ∀ reloaded, loaded = .ok reloaded →
        reloaded.name = definition.name ∧
        reloaded.containerMode = definition.containerMode ∧
        reloaded.keyIndex = definition.keyIndex ∧
        reloaded.fields = definition.fields.map Field.bare ∧
        reloaded.hooks? = none ∧
        reloaded.toJson = definition.toJson) ∧
    (∀ (typeName : Text) (descriptors : List FieldDescriptor)
        (definition : CollectionDefinition Payload),
      extract options typeName descriptors = .ok definition →
      ∃ reloaded : CollectionDefinition Payload,
        ofJson options definition.toJson = .ok reloaded) ∧
    ∀ (json : Json) (definition : CollectionDefinition Payload),
      ofJson options json = .ok definition →
      ∃ reloaded : CollectionDefinition Payload,
        ofJson options definition.toJson = .ok reloaded := by
  refine ⟨?_, ?_, ?_⟩
  · intro draft definition held underOptions built
    subst underOptions
    have yields := Draft.build_eq_ok_iff.mp built
    have fits : (∀ field ∈ definition.fields, field.FitsDocument) ↔
        ∀ field ∈ definition.fields, field.role = .vector →
          field.dimensions.toNat ≤ 0x7FFFFFFFFFFFFFFF :=
      forall₂_congr fun field member => yields.fitsDocument_iff member
    refine ⟨?_, ?_, ?_⟩
    · rw [← fits]
      constructor
      · intro parts
        rcases parts with ⟨reloaded, loads⟩
        exact ((ofJson_toJson_iff yields).mp loads).1
      · intro all
        exact ⟨definition.documented, (ofJson_toJson_iff yields).mpr ⟨all, rfl⟩⟩
    · intro error refused
      rcases document_of_ofJson_toJson yields refused with ⟨cause, rfl⟩
      exact ⟨Status.kind?_failure _ _, by rw [refused]; rfl⟩
    · intro reloaded loads
      rcases (ofJson_toJson_iff yields).mp loads with ⟨_, rfl⟩
      exact ⟨rfl, rfl, rfl, rfl, rfl, definition.toJson_documented⟩
  · intro typeName descriptors definition extracted
    exact ⟨definition.documented, loads_of_extract extracted⟩
  · intro json definition loaded
    exact ⟨definition.documented, loads_of_ofJson loaded⟩

def embeddings (dimensions : UInt64) : Draft Empty where
  name := "embeddings"
  fields := [.key "id" .string, .vector "embedding" dimensions (.vector .single) "hnsw" "cosine"]

/-- The greatest signed integer of dimensions loads, and one more does not. -/
theorem reload_embeddings : ∃ fitting excessive : CollectionDefinition Empty,
    (embeddings 0x7FFFFFFFFFFFFFFF).build = .ok fitting ∧
      (∃ reloaded : CollectionDefinition Empty, ofJson {} fitting.toJson = .ok reloaded) ∧
      (embeddings 0x8000000000000000).build = .ok excessive ∧
      ¬ ∃ reloaded : CollectionDefinition Empty, ofJson {} excessive.toJson = .ok reloaded := by
  rcases (⟨_, rfl⟩ : ∃ fitting, (embeddings 0x7FFFFFFFFFFFFFFF).build = .ok fitting)
    with ⟨fitting, fits⟩
  rcases (⟨_, rfl⟩ : ∃ excessive, (embeddings 0x8000000000000000).build = .ok excessive)
    with ⟨excessive, exceeds⟩
  have loads := ((reload_of_built {}).1 _ fitting none rfl fits).1
  have refused := ((reload_of_built {}).1 _ excessive none rfl exceeds).1
  refine ⟨fitting, excessive, fits, loads.mpr ?_, exceeds, ?_⟩
  · cases fits
    decide
  · rw [refused]
    intro bounded
    cases exceeds
    have above := bounded _ (List.mem_cons_of_mem _ List.mem_cons_self) rfl
    exact absurd above (by decide)

end CollectionDefinition

end CollectionSchema
