import CollectionSchema.Collection.Draft
import CollectionSchema.Field.Document
import CollectionSchema.Record.Basic

/-! # Sources of definitions

Besides a draft, a definition is read from a list of published members or from a
document. Both gather fields first and leave the invariants to the draft.
-/

namespace CollectionSchema

/-! ## Errors -/

inductive DefinitionError
  | marking (error : MarkingError)
  | document (error : DocumentError)
  | invalid (name : Text) (error : ValidationError)
deriving DecidableEq

namespace DefinitionError

def status : DefinitionError → Status
  | marking error => error.status
  | document error => error.status
  | invalid _ error => error.status

/-- Only a refused draft leaves a record. -/
def record? : DefinitionError → Option LogRecord
  | marking _ | document _ => none
  | invalid name error => some (error.rejection name)

end DefinitionError

variable {Payload : Type}

def Draft.define (draft : Draft Payload) :
    Except DefinitionError (CollectionDefinition Payload) :=
  draft.build.mapError (.invalid draft.name)

/-! ## Published members -/

/-- The definition of the marked members, under the name of their type. -/
def extract (options : ValidationOptions) (typeName : Text)
    (descriptors : List FieldDescriptor) :
    Except DefinitionError (CollectionDefinition Payload) := do
  let fields ← (FieldDescriptor.fields descriptors).mapError .marking
  ({ name := typeName, fields, options } : Draft Payload).define

def RecordDescriptor.extract {recordType : RecordType} (options : ValidationOptions)
    (descriptor : RecordDescriptor recordType) :
    Except DefinitionError (CollectionDefinition Payload) :=
  CollectionSchema.extract options descriptor.typeName descriptor.descriptors

/-! ## Documents -/

def CollectionDefinition.toJson (definition : CollectionDefinition Payload) : Json :=
  .object [
    ("name", .string definition.name),
    ("containerMode", .bool definition.containerMode),
    ("fields", .array (definition.fields.map Field.toJson))]

/-- The draft that a document describes. Every field of it must read, whatever
invariants the fields then break. -/
def Draft.ofJson (options : ValidationOptions) (json : Json) :
    Except DocumentError (Draft Payload) := do
  if !(json.member "fields").isArray then throw .noFieldList
  json.checkString .collection "name"
  json.checkBoolean .collection "containerMode"
  let fields ← (json.member "fields").elements.mapM Field.ofJson
  return {
    name := json.memberText "name"
    containerMode := json.memberFlag "containerMode"
    fields
    options }

def CollectionDefinition.ofJson (options : ValidationOptions) (json : Json) :
    Except DefinitionError (CollectionDefinition Payload) := do
  let draft ← (Draft.ofJson options json).mapError .document
  draft.define

end CollectionSchema
