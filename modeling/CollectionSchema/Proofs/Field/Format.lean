import CollectionSchema.Proofs.Dictionary
import CollectionSchema.Proofs.Field.Reading

/-! # The format of field documents

A document reads as a field if and only if the members of the format have the kinds
and the tokens that the format asks for, and the dimensions of a vector field are not too
large for a signed integer. No other member is looked at, and the order in which members
come is of no account.
-/

namespace CollectionSchema

/-! ## Tokens -/

theorem Role.parse?_eq_some_iff {token : Text} {role : Role} :
    Role.parse? token = some role ↔ token.lower = role.name := by
  constructor
  · intro parsed
    simp only [parse?] at parsed
    split_ifs at parsed with key data vector
    · cases parsed
      exact key
    · cases parsed
      exact data
    · cases parsed
      exact vector
  · intro named
    rw [parse?, named]
    cases role <;> decide

/-- The token names the type itself, or the element type of vectors on a vector field. -/
theorem FieldType.parse?_eq_some_iff {role : Role} {token : Text} {type : FieldType} :
    FieldType.parse? role token = some type ↔
      ∃ named, (token.lower, named) ∈ tokens ∧ onField role named = type := by
  have listed : ∀ entry ∈ tokens, tokens.lookup entry.1 = some entry.2 := by decide
  rw [parse?, Option.map_eq_some_iff]
  constructor
  · intro found
    rcases found with ⟨named, found, placed⟩
    rcases List.lookup_eq_some_iff.mp found with ⟨front, back, split, _⟩
    exact ⟨named, by simp [split], placed⟩
  · intro known
    rcases known with ⟨named, known, placed⟩
    exact ⟨named, listed _ known, placed⟩

namespace Json

/-! ## Kinds of members -/

/-- The members of the given names that are there are of one kind. -/
def HoldsOnly (json : Json) (kind : Json → Bool) (keys : List String) : Prop :=
  ∀ key ∈ keys, ∀ value, json.member? key = some value → kind value = true

theorem exists_readsText_iff {json : Json} {key : Text} :
    (∃ text, json.ReadsText key text) ↔
      ∀ value, json.member? key = some value → value.isString = true := by
  cases found : json.member? key with
  | none => simp [ReadsText, found]
  | some value => cases value <;> simp [ReadsText, found, isString]

theorem exists_readsFlag_iff {json : Json} {key : Text} :
    (∃ flag, json.ReadsFlag key flag) ↔
      ∀ value, json.member? key = some value → value.isBool = true := by
  cases found : json.member? key with
  | none => simp [ReadsFlag, found]
  | some value => cases value <;> simp [ReadsFlag, found, isBool]

/-! ## Documents alike -/

/-- Both documents have the same members of the given names, in any order and among
any others. -/
structure SameMembers (keys : List Text) (left right : Json) : Prop where
  object : left.isObject = right.isObject
  members : ∀ key ∈ keys, left.member? key = right.member? key

namespace SameMembers

variable {keys : List Text} {left right : Json} (same : SameMembers keys left right)
  {key : Text} (listed : key ∈ keys)
include same listed

theorem member : left.member key = right.member key := by
  rw [Json.member, Json.member, same.members key listed]

theorem hasMember : left.hasMember key = right.hasMember key := by
  rw [Json.hasMember, Json.hasMember, same.members key listed]

theorem memberText : left.memberText key = right.memberText key := by
  rw [Json.memberText, Json.memberText, same.member listed]

theorem memberFlag : left.memberFlag key = right.memberFlag key := by
  rw [Json.memberFlag, Json.memberFlag, same.member listed]

theorem checkString (part : DocumentPart) :
    left.checkString part key = right.checkString part key := by
  rw [Json.checkString, Json.checkString, same.members key listed]

theorem checkBoolean (part : DocumentPart) :
    left.checkBoolean part key = right.checkBoolean part key := by
  rw [Json.checkBoolean, Json.checkBoolean, same.members key listed]

end SameMembers

end Json

namespace Field

/-! ## Well-formed documents -/

def textNames : List String :=
  ["propertyName", "storageName", "type", "indexKind", "distanceFunction"]

def flagNames : List String := ["isFullTextIndexed", "isFilterable"]

/-- The document is one of a field of the role. -/
structure HasFormat (json : Json) (role : Role) : Prop where
  object : json.isObject = true
  token : ∃ token, json.member? "role" = some (.string token) ∧ token.lower = role.name
  texts : json.HoldsOnly Json.isString textNames
  flags : json.HoldsOnly Json.isBool flagNames
  type : ∀ token, json.member? "type" = some (.string token) →
    ∃ named, (token.lower, named) ∈ FieldType.tokens
  dimensions : role = .vector → ∀ value, json.member? "dimensions" = some value →
    ∃ count, value.integer? = some count ∧ 0 < count

/-- The dimensions of a vector field are an integer that wraps where it is read. -/
def Overlarge (json : Json) (role : Role) : Prop :=
  role = .vector ∧ ∃ count, json.member? "dimensions" = some (.large count)

theorem exists_describesType_iff {json : Json} {role : Role} :
    (∃ type, DescribesType json role type) ↔
      (∀ value, json.member? "type" = some value → value.isString = true) ∧
      ∀ token, json.member? "type" = some (.string token) →
        ∃ named, (token.lower, named) ∈ FieldType.tokens := by
  cases found : json.member? "type" with
  | none => simp [DescribesType, found]
  | some value =>
      cases value <;>
        simp [DescribesType, found, Json.isString, FieldType.parse?_eq_some_iff]

theorem exists_describesDimensions_iff {json : Json} :
    (∃ dimensions, DescribesDimensions json dimensions) ↔
      (∀ value, json.member? "dimensions" = some value →
        ∃ count, value.integer? = some count ∧ 0 < count) ∧
      ∀ count, json.member? "dimensions" ≠ some (.large count) := by
  cases found : json.member? "dimensions" with
  | none => simp [DescribesDimensions, found]
  | some value => cases value <;> simp [DescribesDimensions, found, Json.integer?]

theorem hasFormat_of_describes {json : Json} {field : Field} (describes : Describes json field) :
    HasFormat json field.role where
  object := (describesRole_iff.mp describes.role).1
  token := by
    rcases describes.role with ⟨token, written, known⟩
    exact ⟨token, written, Role.parse?_eq_some_iff.mp known⟩
  texts := by
    rcases describes.indexKind with ⟨_, indexKind, _⟩
    rcases describes.distanceFunction with ⟨_, distanceFunction, _⟩
    simp only [Json.HoldsOnly, textNames, List.forall_mem_cons]
    exact ⟨Json.exists_readsText_iff.mp ⟨_, describes.property⟩,
      Json.exists_readsText_iff.mp ⟨_, describes.storage⟩,
      (exists_describesType_iff.mp ⟨_, describes.type⟩).1,
      Json.exists_readsText_iff.mp ⟨_, indexKind⟩,
      Json.exists_readsText_iff.mp ⟨_, distanceFunction⟩, nofun⟩
  flags := by
    rcases describes.fullTextIndexed with ⟨_, fullTextIndexed, _⟩
    rcases describes.filterable with ⟨_, filterable, _⟩
    simp only [Json.HoldsOnly, flagNames, List.forall_mem_cons]
    exact ⟨Json.exists_readsFlag_iff.mp ⟨_, fullTextIndexed⟩,
      Json.exists_readsFlag_iff.mp ⟨_, filterable⟩, nofun⟩
  type := (exists_describesType_iff.mp ⟨_, describes.type⟩).2
  dimensions := by
    intro vector
    have dimensions := describes.dimensions
    rw [if_pos vector] at dimensions
    exact (exists_describesDimensions_iff.mp ⟨_, dimensions⟩).1

theorem not_overlarge_of_describes {json : Json} {field : Field}
    (describes : Describes json field) : ¬ Overlarge json field.role := by
  intro overlarge
  rcases overlarge with ⟨vector, count, written⟩
  have dimensions := describes.dimensions
  rw [if_pos vector] at dimensions
  exact (exists_describesDimensions_iff.mp ⟨_, dimensions⟩).2 count written

theorem exists_describes {json : Json} {role : Role} (hasFormat : HasFormat json role)
    (fits : ¬ Overlarge json role) : ∃ field, Describes json field ∧ field.role = role := by
  rcases hasFormat with ⟨_, ⟨token, written, named⟩, texts, flags, types, dimensions⟩
  simp only [Json.HoldsOnly, textNames, flagNames, List.forall_mem_cons] at texts flags
  rcases texts with ⟨property, storage, type, indexKind, distanceFunction, _⟩
  rcases flags with ⟨fullTextIndexed, filterable, _⟩
  rcases Json.exists_readsText_iff.mpr property with ⟨property, readsProperty⟩
  rcases Json.exists_readsText_iff.mpr storage with ⟨storage, readsStorage⟩
  rcases exists_describesType_iff.mpr ⟨type, types⟩ with ⟨type, describesType⟩
  rcases Json.exists_readsText_iff.mpr indexKind with ⟨indexKind, readsIndex⟩
  rcases Json.exists_readsText_iff.mpr distanceFunction with ⟨distanceFunction, readsDistance⟩
  rcases Json.exists_readsFlag_iff.mpr fullTextIndexed with ⟨fullTextIndexed, readsFullText⟩
  rcases Json.exists_readsFlag_iff.mpr filterable with ⟨filterable, readsFilterable⟩
  have counted : ∃ dimensions, if role = .vector then DescribesDimensions json dimensions
      else dimensions = 0 := by
    by_cases vector : role = .vector
    · have small : ∀ count, json.member? "dimensions" ≠ some (.large count) :=
        fun count written => fits ⟨vector, count, written⟩
      simpa only [if_pos vector] using
        exists_describesDimensions_iff.mpr ⟨dimensions vector, small⟩
    · simp only [if_neg vector, exists_eq]
  rcases counted with ⟨dimensions, describesDimensions⟩
  refine ⟨{
      role
      property
      storage
      type
      dimensions
      indexKind := if role = .vector then indexKind else .empty
      distanceFunction := if role = .vector then distanceFunction else .empty
      fullTextIndexed := if role = .data then fullTextIndexed else false
      filterable := if role = .data then filterable else false }, ?_, rfl⟩
  exact {
    role := ⟨token, written, Role.parse?_eq_some_iff.mpr named⟩
    property := readsProperty
    storage := readsStorage
    type := describesType
    indexKind := ⟨indexKind, readsIndex, rfl⟩
    distanceFunction := ⟨distanceFunction, readsDistance, rfl⟩
    dimensions := describesDimensions
    fullTextIndexed := ⟨fullTextIndexed, readsFullText, rfl⟩
    filterable := ⟨filterable, readsFilterable, rfl⟩
    default := rfl }

/-- A document reads as a field if and only if it has the format of some role's fields,
and no dimensions that wrap. -/
theorem exists_describes_iff {json : Json} :
    (∃ field, Describes json field) ↔ ∃ role, HasFormat json role ∧ ¬ Overlarge json role := by
  constructor
  · intro described
    rcases described with ⟨field, describes⟩
    exact ⟨field.role, hasFormat_of_describes describes, not_overlarge_of_describes describes⟩
  · intro formatted
    rcases formatted with ⟨role, hasFormat, fits⟩
    rcases exists_describes hasFormat fits with ⟨field, describes, _⟩
    exact ⟨field, describes⟩

theorem HasFormat.role_unique {json : Json} {role other : Role} (hasFormat : HasFormat json role)
    (otherFormat : HasFormat json other) : role = other := by
  rcases hasFormat.token with ⟨token, written, named⟩
  rcases otherFormat.token with ⟨_, same, otherNamed⟩
  rw [written] at same
  cases same
  have parsed := Role.parse?_eq_some_iff.mpr named
  rw [Role.parse?_eq_some_iff.mpr otherNamed] at parsed
  exact (Option.some.inj parsed).symm

/-! ## Members that are looked at -/

def memberNames : List Text :=
  ("role" :: "dimensions" :: (textNames ++ flagNames)).map Text.ofString

section

variable {left right : Json} (same : Json.SameMembers memberNames left right)
include same

theorem documentName_congr : documentName left = documentName right := by
  rw [documentName, same.hasMember (by decide), same.memberText (by decide),
    same.memberText (by decide), documentName]

theorem readType_congr (role : Role) : readType role left = readType role right := by
  rw [readType, readType, same.members _ (by decide)]

theorem readRoleMembers_congr (part : DocumentPart) (field : Field) :
    readRoleMembers part left field = readRoleMembers part right field := by
  have dimensions : readDimensions part left = readDimensions part right := by
    rw [readDimensions, readDimensions, same.members _ (by decide)]
  rw [readRoleMembers, readRoleMembers, dimensions, same.memberText (by decide),
    same.memberText (by decide), same.memberFlag (by decide), same.memberFlag (by decide)]

/-- Documents with the same members of the format read alike, errors included. -/
theorem ofJson_congr : ofJson left = ofJson right := by
  have textsKnown : ∀ key ∈ textNames, Text.ofString key ∈ memberNames := by decide
  have flagsKnown : ∀ key ∈ flagNames, Text.ofString key ∈ memberNames := by decide
  have texts : ∀ part, (textNames.forM fun key => left.checkString part key) =
      textNames.forM fun key => right.checkString part key := fun part =>
    forM_congr fun key listed => same.checkString (textsKnown key listed) part
  have flags : ∀ part, (flagNames.forM fun key => left.checkBoolean part key) =
      flagNames.forM fun key => right.checkBoolean part key := fun part =>
    forM_congr fun key listed => same.checkBoolean (flagsKnown key listed) part
  have property : left.memberText "propertyName" = right.memberText "propertyName" :=
    same.memberText (by decide)
  have storage : left.memberText "storageName" = right.memberText "storageName" :=
    same.memberText (by decide)
  simp only [textNames] at texts
  simp only [flagNames] at flags
  rw [ofJson, same.object, same.member (by decide), same.memberText (by decide),
    documentName_congr same]
  simp only [texts, flags, readType_congr same, readRoleMembers_congr same, property, storage]
  rfl

end

end Field

end CollectionSchema
