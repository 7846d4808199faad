import CollectionSchema.Field.Document
import CollectionSchema.Proofs.Sequence

/-! # Reading field documents

A document reads as a field if and only if its members describe that field. The
members are looked at one by one, whatever their order and whatever else is there.
-/

namespace CollectionSchema

namespace Json

/-! ## Optional members -/

/-- The member holds the text, or there is no such member and the text is empty. -/
def ReadsText (json : Json) (key text : Text) : Prop :=
  json.member? key = some (.string text) ∨ json.member? key = none ∧ text = .empty

/-- The member holds the flag, or there is no such member and the flag is not set. -/
def ReadsFlag (json : Json) (key : Text) (flag : Bool) : Prop :=
  json.member? key = some (.bool flag) ∨ json.member? key = none ∧ flag = false

theorem readsText_iff (part : DocumentPart) {json : Json} {key text : Text} :
    json.ReadsText key text ↔
      json.checkString part key = .ok () ∧ json.memberText key = text := by
  cases found : json.member? key with
  | none => simp [ReadsText, checkString, memberText, member, found, asText, eq_comm]
  | some value => cases value <;> simp [ReadsText, checkString, memberText, member, found, asText]

theorem readsFlag_iff (part : DocumentPart) {json : Json} {key : Text} {flag : Bool} :
    json.ReadsFlag key flag ↔
      json.checkBoolean part key = .ok () ∧ json.memberFlag key = flag := by
  cases found : json.member? key with
  | none => simp [ReadsFlag, checkBoolean, memberFlag, member, found, asBool, eq_comm]
  | some value =>
      cases value <;> simp [ReadsFlag, checkBoolean, memberFlag, member, found, asBool]

/-- A large integer does not count as positive where it is asked for as a signed one. -/
theorem asksPositive_iff {json : Json} :
    (json.isInteger && 0 < json.asInteger.toInt) = true ↔
      ∃ count : Int64, json = .int count ∧ 0 < count.toInt := by
  rw [Bool.and_eq_true, decide_eq_true_eq]
  cases json with
  | int count => simp [isInteger, asInteger]
  | large count =>
      have negative := count.wrapped_lt_zero
      simp only [isInteger, asInteger, true_and, reduceCtorEq, false_and, exists_const, iff_false]
      omega
  | _ => simp [isInteger]

end Json

/-! ## Tokens -/

theorem Role.read_eq_ok_iff {token : Text} {role : Role} :
    Role.read token = .ok role ↔ Role.parse? token = some role := by
  cases found : Role.parse? token <;> simp [Role.read, found]

theorem Role.read_eq_error_iff {token : Text} {error : TokenError} :
    Role.read token = .error error ↔ Role.parse? token = none ∧ error = .role token := by
  cases found : Role.parse? token <;> simp [Role.read, found, eq_comm]

theorem FieldType.read_eq_ok_iff {role : Role} {token : Text} {type : FieldType} :
    FieldType.read role token = .ok type ↔ FieldType.parse? role token = some type := by
  cases found : FieldType.parse? role token <;> simp [FieldType.read, found]

namespace Field

/-! ## Descriptions -/

def DescribesType (json : Json) (role : Role) (type : FieldType) : Prop :=
  json.member? "type" = none ∧ type = .unknown ∨
    ∃ token, json.member? "type" = some (.string token) ∧
      FieldType.parse? role token = some type

/-- A vector field may leave its dimensions out, and they count as zero then. -/
def DescribesDimensions (json : Json) (dimensions : UInt64) : Prop :=
  json.member? "dimensions" = none ∧ dimensions = 0 ∨
    ∃ count : Int64, json.member? "dimensions" = some (.int count) ∧ 0 < count.toInt ∧
      dimensions = count.toUInt64

/-- The members of a document agree with the attributes of a field. Those that
belong to another role are checked for their kind and leave no trace. -/
structure Describes (json : Json) (field : Field) : Prop where
  role : ∃ token, json.member? "role" = some (.string token) ∧
    Role.parse? token = some field.role
  property : json.ReadsText "propertyName" field.property
  storage : json.ReadsText "storageName" field.storage
  type : DescribesType json field.role field.type
  indexKind : ∃ text, json.ReadsText "indexKind" text ∧
    field.indexKind = if field.role = .vector then text else .empty
  distanceFunction : ∃ text, json.ReadsText "distanceFunction" text ∧
    field.distanceFunction = if field.role = .vector then text else .empty
  dimensions : if field.role = .vector then DescribesDimensions json field.dimensions
    else field.dimensions = 0
  fullTextIndexed : ∃ flag, json.ReadsFlag "isFullTextIndexed" flag ∧
    field.fullTextIndexed = if field.role = .data then flag else false
  filterable : ∃ flag, json.ReadsFlag "isFilterable" flag ∧
    field.filterable = if field.role = .data then flag else false
  default : field.default? = none

/-! ## Steps of the reading -/

theorem readType_eq_ok_iff (part : DocumentPart) {role : Role} {json : Json}
    {type : FieldType} :
    json.checkString part "type" = .ok () ∧ readType role json = .ok type ↔
      DescribesType json role type := by
  cases found : json.member? "type" with
  | none => simp [DescribesType, Json.checkString, readType, found, eq_comm]
  | some value =>
      cases value <;>
        simp [DescribesType, Json.checkString, readType, found, Json.asText,
          mapError_eq_ok_iff, FieldType.read_eq_ok_iff]

theorem readDimensions_eq_ok_iff {part : DocumentPart} {json : Json} {dimensions : UInt64} :
    readDimensions part json = .ok dimensions ↔ DescribesDimensions json dimensions := by
  cases found : json.member? "dimensions" with
  | none => simp [DescribesDimensions, readDimensions, found, eq_comm]
  | some value =>
      simp only [readDimensions, DescribesDimensions, found, reduceCtorEq, false_and, false_or,
        Option.some.injEq]
      constructor
      · intro read
        split at read
        · rename_i positive
          rcases Json.asksPositive_iff.mp positive with ⟨count, rfl, above⟩
          exact ⟨count, rfl, above, (Except.ok.inj read).symm⟩
        · cases read
      · intro described
        rcases described with ⟨count, rfl, above, rfl⟩
        rw [if_pos (Json.asksPositive_iff.mpr ⟨count, rfl, above⟩)]
        rfl

theorem readRoleMembers_eq_ok_iff {part : DocumentPart} {json : Json} {role : Role}
    {property storage : Text} {type : FieldType} {field : Field} :
    readRoleMembers part json { role, property, storage, type } = .ok field ↔
      field.role = role ∧ field.property = property ∧ field.storage = storage ∧
      field.type = type ∧
      (if role = .vector then DescribesDimensions json field.dimensions
        else field.dimensions = 0) ∧
      (field.indexKind = if role = .vector then json.memberText "indexKind" else .empty) ∧
      (field.distanceFunction =
        if role = .vector then json.memberText "distanceFunction" else .empty) ∧
      (field.fullTextIndexed =
        if role = .data then json.memberFlag "isFullTextIndexed" else false) ∧
      (field.filterable = if role = .data then json.memberFlag "isFilterable" else false) ∧
      field.default? = none := by
  rcases field with
    ⟨_, _, _, _, dimensions, indexKind, distanceFunction, fullTextIndexed, filterable, _⟩
  cases role with
  | key => simp [readRoleMembers, eq_comm]
  | data => simp [readRoleMembers, eq_comm]
  | vector =>
      simp only [readRoleMembers, bind_eq_ok_iff, readDimensions_eq_ok_iff, if_true]
      constructor
      · intro reads
        rcases reads with ⟨read, described, equal⟩
        cases equal
        simp [described]
      · intro agrees
        simp only [reduceCtorEq, if_false] at agrees
        rcases agrees with ⟨rfl, rfl, rfl, rfl, described, rfl, rfl, rfl, rfl, rfl⟩
        exact ⟨dimensions, described, rfl⟩

/-- The steps of a reading that succeeds, the field being made in the last of them. -/
theorem ofJson_eq_ok_iff_steps {json : Json} {field : Field} :
    ofJson json = .ok field ↔
      json.isObject = true ∧ (json.member "role").isString = true ∧
      ∃ role, Role.read (json.memberText "role") = .ok role ∧
        (∀ key ∈ ["propertyName", "storageName", "type", "indexKind", "distanceFunction"],
          json.checkString (.field (documentName json)) key = .ok ()) ∧
        (∀ key ∈ ["isFullTextIndexed", "isFilterable"],
          json.checkBoolean (.field (documentName json)) key = .ok ()) ∧
        ∃ type, readType role json = .ok type ∧
          readRoleMembers (.field (documentName json)) json
            { role
              property := json.memberText "propertyName"
              storage := json.memberText "storageName"
              type } = .ok field := by
  simp only [ofJson]
  cases json.isObject with
  | false =>
      constructor
      · intro read
        cases read
      · intro described
        rcases described with ⟨isObject, _⟩
        cases isObject
  | true =>
      cases (json.member "role").isString with
      | false =>
          constructor
          · intro read
            cases read
          · intro described
            rcases described with ⟨_, isString, _⟩
            cases isString
      | true =>
          simp only [Bool.not_true, Bool.false_eq_true, if_false, bind_eq_ok_iff,
            mapError_eq_ok_iff, true_and]
          constructor
          · intro described
            rcases described with ⟨role, known, _, texts, _, flags, type, typed, made⟩
            exact ⟨role, known, forM_eq_ok_iff.mp texts, forM_eq_ok_iff.mp flags, type, typed, made⟩
          · intro described
            rcases described with ⟨role, known, texts, flags, type, typed, made⟩
            exact ⟨role, known, ⟨⟩, forM_eq_ok_iff.mpr texts, ⟨⟩, forM_eq_ok_iff.mpr flags, type,
              typed, made⟩

theorem describesRole_iff {json : Json} {role : Role} :
    (∃ token, json.member? "role" = some (.string token) ∧ Role.parse? token = some role) ↔
      json.isObject = true ∧ (json.member "role").isString = true ∧
        Role.read (json.memberText "role") = .ok role := by
  rw [Role.read_eq_ok_iff]
  cases json with
  | object members =>
      cases found : (Json.object members).member? "role" with
      | none => simp [Json.member, found, Json.isString]
      | some value =>
          cases value <;> simp [Json.member, Json.memberText, found, Json.isString, Json.asText,
            Json.isObject]
  | _ => simp [Json.member?, Json.members, Dictionary.get?, Json.isObject]

theorem ofJson_eq_ok_iff {json : Json} {field : Field} :
    ofJson json = .ok field ↔ Describes json field := by
  let part := DocumentPart.field (documentName json)
  rw [ofJson_eq_ok_iff_steps]
  simp only [readRoleMembers_eq_ok_iff, List.forall_mem_cons, List.not_mem_nil,
    false_implies, implies_true, and_true]
  constructor
  · intro described
    rcases described with
      ⟨isObject, isString, role, known, ⟨property, storage, typeKind, index, distance⟩,
        ⟨fullText, filterable⟩, type, typed, rfl, sameProperty, sameStorage, rfl, dimensions,
        indexKind, distanceFunction, fullTextIndexed, isFilterable, default⟩
    exact {
      role := describesRole_iff.mpr ⟨isObject, isString, known⟩
      property := (Json.readsText_iff part).mpr ⟨property, sameProperty.symm⟩
      storage := (Json.readsText_iff part).mpr ⟨storage, sameStorage.symm⟩
      type := (readType_eq_ok_iff part).mp ⟨typeKind, typed⟩
      indexKind := ⟨_, (Json.readsText_iff part).mpr ⟨index, rfl⟩, indexKind⟩
      distanceFunction := ⟨_, (Json.readsText_iff part).mpr ⟨distance, rfl⟩, distanceFunction⟩
      dimensions
      fullTextIndexed := ⟨_, (Json.readsFlag_iff part).mpr ⟨fullText, rfl⟩, fullTextIndexed⟩
      filterable := ⟨_, (Json.readsFlag_iff part).mpr ⟨filterable, rfl⟩, isFilterable⟩
      default }
  · intro describes
    rcases describesRole_iff.mp describes.role with ⟨isObject, isString, known⟩
    have property := (Json.readsText_iff part).mp describes.property
    have storage := (Json.readsText_iff part).mp describes.storage
    have type := (readType_eq_ok_iff part).mpr describes.type
    rcases describes.indexKind with ⟨_, index, indexKind⟩
    rcases describes.distanceFunction with ⟨_, distance, distanceFunction⟩
    rcases describes.fullTextIndexed with ⟨_, fullText, fullTextIndexed⟩
    rcases describes.filterable with ⟨_, filterable, isFilterable⟩
    rcases (Json.readsText_iff part).mp index with ⟨indexString, rfl⟩
    rcases (Json.readsText_iff part).mp distance with ⟨distanceString, rfl⟩
    rcases (Json.readsFlag_iff part).mp fullText with ⟨fullTextFlag, rfl⟩
    rcases (Json.readsFlag_iff part).mp filterable with ⟨filterableFlag, rfl⟩
    exact ⟨isObject, isString, field.role, known,
      ⟨property.1, storage.1, type.1, indexString, distanceString⟩,
      ⟨fullTextFlag, filterableFlag⟩, field.type, type.2, rfl, property.2.symm, storage.2.symm,
      rfl, describes.dimensions, indexKind, distanceFunction, fullTextIndexed, isFilterable,
      describes.default⟩

end Field

end CollectionSchema
