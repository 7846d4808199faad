import CollectionSchema.Field.Basic

/-! # Validation

The invariants of the field list of a collection. Fields are surveyed in order,
each against the fields before it; what concerns the whole list is looked at
only when no field is at fault.
-/

namespace CollectionSchema

structure ValidationOptions where
  /-- At least one field must be a vector field. -/
  requireVector : Bool := true
  /-- Storage names must be identifiers. -/
  strictNames : Bool := false
deriving DecidableEq

inductive ValidationError
  | unnamed (position : Nat)
  | invalidName (name : Text)
  | duplicateStorageName (name : Text)
  | duplicatePropertyName (name : Text)
  | multipleKeys (first second : Text)
  | keyType (name : Text) (type : FieldType)
  | missingDimensions (name : Text)
  | vectorType (name : Text) (type : FieldType)
  | noKey
  | noVector
  | unpairedHooks
  | hooksOutsideContainerMode
deriving DecidableEq

namespace ValidationError

def message : ValidationError → Text
  | unnamed position => "Field at position " ++ Text.ofNat position ++ " has no name."
  | invalidName name =>
      "Invalid storage name '" ++ name ++ "': it should start with a letter or '_' " ++
        "and can contain only letters, digits, and underscores."
  | duplicateStorageName name =>
      "Collection definition has a duplicate storage name '" ++ name ++ "'."
  | duplicatePropertyName name =>
      "Collection definition has a duplicate property name '" ++ name ++ "'."
  | multipleKeys first second =>
      "Collection definition has multiple key fields: '" ++ first ++ "' and '" ++ second ++ "'."
  | keyType name type =>
      "Key field '" ++ name ++ "' must be an integer or string type, got " ++ type.name ++ "."
  | missingDimensions name => "Vector field '" ++ name ++ "' missing dimensions."
  | vectorType name type =>
      "Vector field '" ++ name ++ "' must hold a vector or text value type, got " ++
        type.name ++ "."
  | noKey => "Collection definition has no key field."
  | noVector => "Collection definition needs at least one vector field."
  | unpairedHooks => "Container hooks must be set together: toContainer and fromContainer."
  | hooksOutsideContainerMode => "Container hooks require container mode."

def status (error : ValidationError) : Status := .failure .validation error.message

end ValidationError

namespace Validation

/-! ## One field against those before it -/

/-- The first rule that the name of a field breaks. -/
def nameFault? (options : ValidationOptions) (before : List Field) (field : Field) :
    Option ValidationError :=
  let name := field.resolvedName
  if name.isEmpty then some (.unnamed before.length)
  else if options.strictNames && !name.isIdentifier then some (.invalidName name)
  else if before.any (·.resolvedName = name) then some (.duplicateStorageName name)
  else if !field.property.isEmpty && before.any (·.property = field.property) then
    some (.duplicatePropertyName field.property)
  else none

/-- The first rule that a field breaks in its role. -/
def roleFault? (before : List Field) (field : Field) : Option ValidationError :=
  let name := field.resolvedName
  match field.role with
  | .key =>
      match before.find? Field.isKey with
      | some first => some (.multipleKeys first.resolvedName name)
      | none => if field.type.suitsKey then none else some (.keyType name field.type)
  | .vector =>
      if field.dimensions = 0 then some (.missingDimensions name)
      else if field.type.suitsVector then none
      else some (.vectorType name field.type)
  | .data => none

def fault? (options : ValidationOptions) (before : List Field) (field : Field) :
    Option ValidationError :=
  (nameFault? options before field).or (roleFault? before field)

/-! ## The whole list -/

/-- The fields that were accepted in turn, and the fault that ended the survey. -/
structure Survey where
  accepted : List Field
  fault? : Option ValidationError

def survey (options : ValidationOptions) (before : List Field) : List Field → Survey
  | [] => ⟨before, none⟩
  | field :: rest =>
      match fault? options before field with
      | some error => ⟨before, some error⟩
      | none => survey options (before ++ [field]) rest

def keyIndex? (fields : List Field) : Option Nat := fields.findIdx? Field.isKey

/-- The position of the key among the fields that were accepted. -/
def Survey.keyIndex? (survey : Survey) : Option Nat := Validation.keyIndex? survey.accepted

/-- What the list as a whole lacks. -/
def listFault? (options : ValidationOptions) (fields : List Field) : Option ValidationError :=
  if !fields.any Field.isKey then some .noKey
  else if options.requireVector && !fields.any Field.isVector then some .noVector
  else none

/-- The survey with the faults of the list as a whole. -/
def check (options : ValidationOptions) (fields : List Field) : Survey :=
  let surveyed := survey options [] fields
  { surveyed with fault? := surveyed.fault?.or (listFault? options fields) }

theorem keyIndex?_lt {fields : List Field} {index : Nat}
    (found : keyIndex? fields = some index) : index < fields.length := by
  rcases List.findIdx?_eq_some_iff_getElem.mp found with ⟨inRange, _⟩
  exact inRange

end Validation

/-- The position of the key of a valid field list. -/
def validate (options : ValidationOptions) (fields : List Field) :
    Except ValidationError (Fin fields.length) :=
  match (Validation.check options fields).fault? with
  | some error => .error error
  | none =>
      match found : Validation.keyIndex? fields with
      | some index => .ok ⟨index, Validation.keyIndex?_lt found⟩
      | none => .error .noKey

end CollectionSchema
