import CollectionSchema.Proofs.Field.Reading

/-! # Fields through documents

A written field reads back unless it is a vector field whose dimensions are not
positive as a signed integer. What comes back is the field with its names and
the attributes of its role, and without its default.
-/

namespace CollectionSchema

/-! ## Dimensions -/

theorem positive_toInt64_iff {dimensions : UInt64} :
    0 < dimensions.toInt64.toInt ↔
      1 ≤ dimensions.toNat ∧ dimensions.toNat ≤ 0x7FFFFFFFFFFFFFFF := by
  have range := dimensions.toNat_lt
  rw [toInt_toInt64_eq]
  split <;> omega

/-- Where the signed integers hold the dimensions, both words have one value. -/
theorem toInt_toInt64 {dimensions : UInt64} (bounded : dimensions.toNat ≤ 0x7FFFFFFFFFFFFFFF) :
    dimensions.toInt64.toInt = dimensions.toNat := by
  rw [toInt_toInt64_eq, if_pos (by omega)]

theorem toNat_toUInt64_le {count : Int64} (positive : 0 < count.toInt) :
    1 ≤ count.toUInt64.toNat ∧ count.toUInt64.toNat ≤ 0x7FFFFFFFFFFFFFFF := by
  rw [← positive_toInt64_iff, Int64.toInt64_toUInt64]
  exact positive

namespace Field

/-- The dimensions of a vector field that a document can hold. -/
def FitsDocument (field : Field) : Prop :=
  field.role = .vector → 1 ≤ field.dimensions.toNat ∧ field.dimensions.toNat ≤ 0x7FFFFFFFFFFFFFFF

/-- The field with the attributes of its role alone, and no default. -/
def bare (field : Field) : Field :=
  { role := field.role
    property := field.property
    storage := field.storage
    type := field.type
    dimensions := if field.role = .vector then field.dimensions else 0
    indexKind := if field.role = .vector then field.indexKind else .empty
    distanceFunction := if field.role = .vector then field.distanceFunction else .empty
    fullTextIndexed := if field.role = .data then field.fullTextIndexed else false
    filterable := if field.role = .data then field.filterable else false }

/-- What a document tells of a field. Its storage name is written out, and an element
type on a vector field stands for the vector type. -/
def documented (field : Field) : Field :=
  { field.resolve.bare with type := field.type.onField field.role }

/-! ## Members of a written field -/

@[simp] theorem get?_writtenMember (key other : Text) (value : Json) :
    Dictionary.get? key (writtenMember other value) = if other = key then some value else none :=
  rfl

@[simp] theorem get?_textMember (key other text : Text) :
    Dictionary.get? key (textMember other text) =
      if text = .empty then none else if other = key then some (.string text) else none := by
  by_cases unset : text = .empty <;> simp [textMember, unset, Dictionary.get?]

@[simp] theorem get?_typeMember (key : Text) (type : FieldType) :
    Dictionary.get? key (typeMember type) =
      if type = .unknown then none
      else if "type" = key then some (.string type.name) else none := by
  by_cases unknown : type = .unknown <;> simp [typeMember, unknown, Dictionary.get?]

theorem member?_toJson (field : Field) (key : Text) :
    field.toJson.member? key =
      ((((Dictionary.get? key (writtenMember "role" (.string field.role.name))).or
        (Dictionary.get? key (textMember "propertyName" field.property))).or
        (Dictionary.get? key (writtenMember "storageName" (.string field.resolvedName)))).or
        (Dictionary.get? key (typeMember field.type))).or
        (Dictionary.get? key field.roleMembers) := by
  simp only [toJson, Json.member?_object, Dictionary.get?_append]

theorem member?_propertyName (field : Field) :
    field.toJson.member? "propertyName" =
      if field.property = .empty then none else some (.string field.property) := by
  cases role : field.role <;> simp [member?_toJson, roleMembers, role, Dictionary.get?]

theorem member?_type (field : Field) :
    field.toJson.member? "type" =
      if field.type = .unknown then none else some (.string field.type.name) := by
  cases role : field.role <;> simp [member?_toJson, roleMembers, role, Dictionary.get?]

theorem member?_indexKind (field : Field) :
    field.toJson.member? "indexKind" =
      if field.role = .vector ∧ field.indexKind ≠ .empty then some (.string field.indexKind)
      else none := by
  cases role : field.role <;> simp [member?_toJson, roleMembers, role, Dictionary.get?]

theorem member?_distanceFunction (field : Field) :
    field.toJson.member? "distanceFunction" =
      if field.role = .vector ∧ field.distanceFunction ≠ .empty then
        some (.string field.distanceFunction)
      else none := by
  cases role : field.role <;> simp [member?_toJson, roleMembers, role, Dictionary.get?]

theorem member?_dimensions (field : Field) :
    field.toJson.member? "dimensions" =
      if field.role = .vector then some (.int field.dimensions.toInt64) else none := by
  cases role : field.role <;> simp [member?_toJson, roleMembers, role, Dictionary.get?]

theorem member?_isFullTextIndexed (field : Field) :
    field.toJson.member? "isFullTextIndexed" =
      if field.role = .data then some (.bool field.fullTextIndexed) else none := by
  cases role : field.role <;> simp [member?_toJson, roleMembers, role, Dictionary.get?]

theorem member?_isFilterable (field : Field) :
    field.toJson.member? "isFilterable" =
      if field.role = .data then some (.bool field.filterable) else none := by
  cases role : field.role <;> simp [member?_toJson, roleMembers, role, Dictionary.get?]

end Field

/-! Members that are written for one role only, and a text only if there is one. -/

namespace Json

variable {json : Json} {key : Text} {placed : Prop} [Decidable placed]

theorem readsText_if {text : Text}
    (found : json.member? key =
      if placed ∧ text ≠ .empty then some (.string text) else none) :
    json.ReadsText key (if placed then text else .empty) := by
  rw [ReadsText, found]
  by_cases here : placed <;> by_cases unset : text = .empty <;> simp [here, unset]

theorem readsFlag_if {flag : Bool}
    (found : json.member? key = if placed then some (.bool flag) else none) :
    json.ReadsFlag key (if placed then flag else false) := by
  rw [ReadsFlag, found]
  by_cases here : placed <;> simp [here]

end Json

namespace Field

/-! ## There and back -/

theorem describesType_toJson (field : Field) :
    DescribesType field.toJson field.role (field.type.onField field.role) := by
  rw [DescribesType, member?_type]
  by_cases unknown : field.type = .unknown
  · left
    simp [unknown, FieldType.onField]
  · right
    exact ⟨field.type.name, if_neg unknown, FieldType.parse?_name field.role unknown⟩

theorem describes_toJson {field : Field} (fits : field.FitsDocument) :
    Describes field.toJson field.documented where
  role := ⟨field.role.name, by simp [member?_toJson], Role.parse?_name field.role⟩
  property := by
    rw [Json.ReadsText, member?_propertyName]
    by_cases unbound : field.property = .empty <;> simp [unbound, documented, bare, resolve]
  storage := .inl (by simp [member?_toJson, documented, bare])
  type := field.describesType_toJson
  indexKind := ⟨_, Json.readsText_if field.member?_indexKind, by
    by_cases vector : field.role = .vector <;> simp [vector, documented, bare, resolve]⟩
  distanceFunction := ⟨_, Json.readsText_if field.member?_distanceFunction, by
    by_cases vector : field.role = .vector <;> simp [vector, documented, bare, resolve]⟩
  dimensions := by
    rw [DescribesDimensions, member?_dimensions]
    by_cases vector : field.role = .vector
    · simp [vector, documented, bare, resolve, positive_toInt64_iff.mpr (fits vector)]
    · simp [vector, documented, bare, resolve]
  fullTextIndexed := ⟨_, Json.readsFlag_if field.member?_isFullTextIndexed, by
    by_cases data : field.role = .data <;> simp [data, documented, bare, resolve]⟩
  filterable := ⟨_, Json.readsFlag_if field.member?_isFilterable, by
    by_cases data : field.role = .data <;> simp [data, documented, bare, resolve]⟩
  default := rfl

/-- A vector field that reads back was written with positive dimensions. -/
theorem fitsDocument_of_describes {field read : Field}
    (describes : Describes field.toJson read) : field.FitsDocument := by
  intro vector
  rcases describes.role with ⟨token, written, known⟩
  have spelled : field.role.name = token := by simpa [member?_toJson] using written
  have role : read.role = .vector := by
    rw [← spelled, Role.parse?_name, vector] at known
    exact (Option.some.inj known).symm
  have dimensions := describes.dimensions
  rw [if_pos role, DescribesDimensions, member?_dimensions, if_pos vector] at dimensions
  rcases dimensions with ⟨absent, _⟩ | ⟨count, present, positive, _⟩
  · cases absent
  · cases present
    exact positive_toInt64_iff.mp positive

theorem ofJson_toJson_iff {field read : Field} :
    ofJson field.toJson = .ok read ↔ field.FitsDocument ∧ read = field.documented := by
  constructor
  · intro reads
    have fits := fitsDocument_of_describes (ofJson_eq_ok_iff.mp reads)
    have back := ofJson_eq_ok_iff.mpr (describes_toJson fits)
    rw [reads] at back
    exact ⟨fits, Except.ok.inj back⟩
  · intro described
    rcases described with ⟨fits, rfl⟩
    exact ofJson_eq_ok_iff.mpr (describes_toJson fits)

/-- A list of written fields reads back if each of its fields does. -/
theorem map_ofJson_toJson_iff {fields read : List Field} :
    (fields.map toJson).map ofJson = read.map .ok ↔
      (∀ field ∈ fields, field.FitsDocument) ∧ read = fields.map documented := by
  induction fields generalizing read with
  | nil => cases read <;> simp
  | cons field rest induction =>
      cases read with
      | nil => simp
      | cons first others =>
          simp only [List.map_cons, List.cons.injEq, List.forall_mem_cons, ofJson_toJson_iff,
            induction]
          exact and_and_and_comm

/-- The attributes of other roles are not written. -/
theorem toJson_bare (field : Field) : field.bare.toJson = field.toJson := by
  cases role : field.role <;> simp [toJson, roleMembers, bare, resolvedName, role]

theorem dimensions_le_of_ofJson {json : Json} {field : Field} (read : ofJson json = .ok field) :
    field.dimensions.toNat ≤ 0x7FFFFFFFFFFFFFFF := by
  have dimensions := (ofJson_eq_ok_iff.mp read).dimensions
  split at dimensions
  · rcases dimensions with ⟨_, zero⟩ | ⟨count, _, positive, equal⟩
    · simp [zero]
    · rw [equal]
      exact (toNat_toUInt64_le positive).2
  · simp [dimensions]

/-! ## Any field, valid or not -/

@[simp] theorem resolvedName_documented (field : Field) :
    field.documented.resolvedName = field.resolvedName :=
  field.resolvedName_resolve

/-- What a document tells of a field is told of once and for all. -/
@[simp] theorem documented_documented (field : Field) :
    field.documented.documented = field.documented := by
  have storage : field.documented.resolve = field.documented := by
    rw [resolve, resolvedName_documented]
    rfl
  have type : field.documented.type.onField field.documented.role = field.documented.type :=
    FieldType.onField_onField field.role field.type
  rw [documented, storage, type]
  by_cases vector : field.role = .vector <;> by_cases data : field.role = .data <;>
    simp [documented, bare, resolve, vector, data]

theorem fitsDocument_documented_iff {field : Field} :
    field.documented.FitsDocument ↔ field.FitsDocument := by
  by_cases vector : field.role = .vector <;>
    simp [FitsDocument, documented, bare, resolve, vector]

/-- What is read back of a field: its names, its type and the attributes of its role. -/
structure ReadBackAs (field read : Field) : Prop where
  role : read.role = field.role
  property : read.property = field.property
  storage : read.storage = field.resolvedName
  elementType : ∀ precision, field.role = .vector → field.type = .real precision →
    read.type = .vector precision
  otherType : (∀ precision, field.role = .vector → field.type ≠ .real precision) →
    read.type = field.type
  onVector : field.role = .vector →
    read.dimensions = field.dimensions ∧ read.indexKind = field.indexKind ∧
      read.distanceFunction = field.distanceFunction
  offVector : field.role ≠ .vector →
    read.dimensions = 0 ∧ read.indexKind = .empty ∧ read.distanceFunction = .empty
  onData : field.role = .data →
    read.fullTextIndexed = field.fullTextIndexed ∧ read.filterable = field.filterable
  offData : field.role ≠ .data → read.fullTextIndexed = false ∧ read.filterable = false
  default : read.default? = none

theorem readBackAs_documented (field : Field) : field.ReadBackAs field.documented where
  role := rfl
  property := rfl
  storage := rfl
  elementType precision vector element := by
    change field.type.onField field.role = _
    rw [vector, element]
    rfl
  otherType other := by
    change field.type.onField field.role = field.type
    cases role : field.role with
    | vector =>
        cases type : field.type with
        | real precision => exact absurd type (other precision role)
        | _ => rfl
    | _ => rfl
  onVector vector := ⟨if_pos vector, if_pos vector, if_pos vector⟩
  offVector other := ⟨if_neg other, if_neg other, if_neg other⟩
  onData data := ⟨if_pos data, if_pos data⟩
  offData other := ⟨if_neg other, if_neg other⟩
  default := rfl

/-- Any field is written, and reads back unless it is a vector field whose dimensions are
zero or beyond the signed integers. What is read back is read back unchanged from then
on. A field that does not read back leaves the caller's variable as it was. -/
theorem written_reads_back (field held : Field) :
    ((∃ read, ofJson field.toJson = .ok read) ↔
      field.role ≠ .vector ∨
        1 ≤ field.dimensions.toNat ∧ field.dimensions.toNat ≤ 0x7FFFFFFFFFFFFFFF) ∧
    (∀ read, ofJson field.toJson = .ok read →
      field.ReadBackAs read ∧ ofJson read.toJson = .ok read) ∧
    ∀ error, ofJson field.toJson = .error error →
      error.status.kind? = some .schema ∧ assign held (ofJson field.toJson) = held := by
  refine ⟨?_, ?_, ?_⟩
  · rw [← imp_iff_not_or]
    constructor
    · intro reads
      rcases reads with ⟨read, reads⟩
      exact (ofJson_toJson_iff.mp reads).1
    · intro fits
      exact ⟨_, ofJson_toJson_iff.mpr ⟨fits, rfl⟩⟩
  · intro read reads
    rcases ofJson_toJson_iff.mp reads with ⟨fits, rfl⟩
    have again := ofJson_toJson_iff.mpr ⟨fitsDocument_documented_iff.mpr fits, rfl⟩
    rw [documented_documented] at again
    exact ⟨field.readBackAs_documented, again⟩
  · intro error refused
    exact ⟨Status.kind?_failure _ _, by rw [refused]; rfl⟩

/-- A nameless vector field of single-precision numbers, which no collection admits. -/
def nameless (dimensions : UInt64) : Field :=
  { role := .vector, type := .real .single, dimensions, filterable := true }

/-- It reads back as a field of vectors up to the greatest signed integer of dimensions. -/
theorem written_reads_back_nameless :
    (∃ read, ofJson (nameless 0x7FFFFFFFFFFFFFFF).toJson = .ok read ∧
      read.type = .vector .single ∧ read.filterable = false ∧
      ofJson read.toJson = .ok read) ∧
    (¬ ∃ read, ofJson (nameless 0x8000000000000000).toJson = .ok read) ∧
    ¬ ∃ read, ofJson (nameless 0).toJson = .ok read := by
  have fits := written_reads_back (nameless 0x7FFFFFFFFFFFFFFF) {}
  refine ⟨?_, ?_, ?_⟩
  · rcases fits.1.mpr (.inr (by decide)) with ⟨read, reads⟩
    rcases fits.2.1 read reads with ⟨back, again⟩
    exact ⟨read, reads, back.elementType .single rfl rfl, (back.offData (by decide)).2, again⟩
  · rw [(written_reads_back (nameless 0x8000000000000000) {}).1]
    decide
  · rw [(written_reads_back (nameless 0) {}).1]
    decide

end Field

end CollectionSchema
