import CollectionSchema.Field.Basic

/-! # Field documents

A field as an object of a schema document. Writing leaves out what the role does
not use and what is not set; reading refuses members of the wrong kind.
-/

namespace CollectionSchema

/-! ## Errors -/

/-- The part of a document that an error speaks of. -/
inductive DocumentPart
  | collection
  | field (name : Text)
deriving DecidableEq

def DocumentPart.describe : DocumentPart → Text
  | collection => "Collection definition"
  | field name => "Field '" ++ name ++ "'"

inductive DocumentError
  | noFieldList
  | fieldNotObject
  | fieldWithoutRole
  | token (error : TokenError)
  | notString (part : DocumentPart) (key : Text)
  | notBoolean (part : DocumentPart) (key : Text)
  | dimensions (part : DocumentPart)
deriving DecidableEq

namespace DocumentError

def message : DocumentError → Text
  | noFieldList => "Collection definition document needs a fields array."
  | fieldNotObject => "Field definition must be an object."
  | fieldWithoutRole => "Field definition needs a role."
  | token error => error.message
  | notString part key => part.describe ++ ": " ++ key ++ " must be a string."
  | notBoolean part key => part.describe ++ ": " ++ key ++ " must be a boolean."
  | dimensions part => part.describe ++ ": dimensions must be a positive integer."

def status (error : DocumentError) : Status := .failure .schema error.message

end DocumentError

/-! ## Members of a fixed kind -/

namespace Json

/-- The member is a string or is not there. -/
def checkString (part : DocumentPart) (json : Json) (key : Text) : Except DocumentError Unit :=
  match json.member? key with
  | none | some (.string _) => .ok ()
  | some _ => .error (.notString part key)

/-- The member is a boolean or is not there. -/
def checkBoolean (part : DocumentPart) (json : Json) (key : Text) : Except DocumentError Unit :=
  match json.member? key with
  | none | some (.bool _) => .ok ()
  | some _ => .error (.notBoolean part key)

def memberText (json : Json) (key : Text) : Text := (json.member key).asText

def memberFlag (json : Json) (key : Text) : Bool := (json.member key).asBool

end Json

namespace Field

/-! ## Writing -/

def writtenMember (key : Text) (value : Json) : List (Text × Json) := [(key, value)]

/-- A member for a text that is set. -/
def textMember (key text : Text) : List (Text × Json) :=
  if text.isEmpty then [] else writtenMember key (.string text)

def typeMember (type : FieldType) : List (Text × Json) :=
  if type = .unknown then [] else writtenMember "type" (.string type.name)

/-- Dimensions are written as a signed integer of their 64 bits. -/
def roleMembers (field : Field) : List (Text × Json) :=
  match field.role with
  | .key => []
  | .data =>
      writtenMember "isFullTextIndexed" (.bool field.fullTextIndexed) ++
        writtenMember "isFilterable" (.bool field.filterable)
  | .vector =>
      writtenMember "dimensions" (.int field.dimensions.toInt64) ++
        textMember "indexKind" field.indexKind ++
        textMember "distanceFunction" field.distanceFunction

def toJson (field : Field) : Json :=
  .object <|
    writtenMember "role" (.string field.role.name) ++
      textMember "propertyName" field.property ++
      writtenMember "storageName" (.string field.resolvedName) ++
      typeMember field.type ++
      field.roleMembers

/-! ## Reading -/

/-- Fields are named in errors by their storage member, or else their property. -/
def documentName (json : Json) : Text :=
  if json.hasMember "storageName" then json.memberText "storageName"
  else json.memberText "propertyName"

def readType (role : Role) (json : Json) : Except DocumentError FieldType :=
  match json.member? "type" with
  | none => .ok .unknown
  | some token => (FieldType.read role token.asText).mapError .token

/-- Dimensions are asked for as a signed integer, so a large one counts as negative. -/
def readDimensions (part : DocumentPart) (json : Json) : Except DocumentError UInt64 :=
  match json.member? "dimensions" with
  | none => .ok 0
  | some count =>
      if count.isInteger && 0 < count.asInteger.toInt then .ok count.asInteger.toUInt64
      else .error (.dimensions part)

/-- The attributes of the field's role; those of other roles are not looked at. -/
def readRoleMembers (part : DocumentPart) (json : Json) (field : Field) :
    Except DocumentError Field :=
  match field.role with
  | .key => .ok field
  | .data =>
      .ok { field with
        fullTextIndexed := json.memberFlag "isFullTextIndexed"
        filterable := json.memberFlag "isFilterable" }
  | .vector => do
      let dimensions ← readDimensions part json
      return { field with
        dimensions
        indexKind := json.memberText "indexKind"
        distanceFunction := json.memberText "distanceFunction" }

def ofJson (json : Json) : Except DocumentError Field := do
  if !json.isObject then throw .fieldNotObject
  if !(json.member "role").isString then throw .fieldWithoutRole
  let role ← (Role.read (json.memberText "role")).mapError .token
  let part : DocumentPart := .field (documentName json)
  ["propertyName", "storageName", "type", "indexKind", "distanceFunction"].forM
    fun key => json.checkString part key
  ["isFullTextIndexed", "isFilterable"].forM fun key => json.checkBoolean part key
  let type ← readType role json
  readRoleMembers part json
    { role
      property := json.memberText "propertyName"
      storage := json.memberText "storageName"
      type }

end Field

end CollectionSchema
