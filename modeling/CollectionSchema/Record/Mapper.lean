import CollectionSchema.Collection.Row
import CollectionSchema.Record.Basic

/-! # Mappers

Records of a described type written to rows and read back. A mapper binds every
field of a definition to a marked member, and then moves values between the two.
-/

namespace CollectionSchema

/-! ## Errors -/

inductive BindingError
  | noDefinition
  | unbound (field definition typeName : Text)
deriving DecidableEq

namespace BindingError

def message : BindingError → Text
  | noDefinition => "Record mapper needs a collection definition."
  | unbound field definition typeName =>
      "Field '" ++ field ++ "' of collection definition '" ++ definition ++
        "' is not an annotated member of " ++ typeName ++ "."

def status : BindingError → Status
  | noDefinition => .failure .unexpected noDefinition.message
  | unbound field definition typeName =>
      .failure .serialization (unbound field definition typeName).message

end BindingError

inductive MapperError
  | binding (error : BindingError)
  | row (error : RowError)
deriving DecidableEq

def MapperError.status : MapperError → Status
  | binding error => error.status
  | row error => error.status

/-! ## Binding -/

structure Binding (recordType : RecordType) where
  field : Field
  member : recordType.Member

/-- The bindings are in the order of the definition's fields. -/
structure Mapper (recordType : RecordType) (Payload : Type) where
  definition : CollectionDefinition Payload
  bindings : List (Binding recordType)

variable {recordType : RecordType} {Payload : Type}

/-- Binds a field to the first marked member of its property name. -/
def RecordDescriptor.bindField (descriptor : RecordDescriptor recordType)
    (definitionName : Text) (field : Field) : Except BindingError (Binding recordType) :=
  match descriptor.member? field.property with
  | some member => .ok ⟨field, member⟩
  | none => .error (.unbound field.storage definitionName descriptor.typeName)

/-- A definition that is missing, or has a field that is no marked member, does not bind. -/
def RecordDescriptor.bind (descriptor : RecordDescriptor recordType)
    (definition? : Option (CollectionDefinition Payload)) :
    Except BindingError (Mapper recordType Payload) :=
  match definition? with
  | none => .error .noDefinition
  | some definition => do
      let bindings ← definition.fields.mapM (descriptor.bindField definition.name)
      return ⟨definition, bindings⟩

namespace Mapper

/-! ## Writing -/

/-- The fields of a record in definition order. -/
def writeRow (mapper : Mapper recordType Payload) (record : Record recordType) : Json :=
  mapper.bindings.foldl
    (fun row binding => row.set binding.field.storage (record.encode binding.member))
    (.object [])

/-! ## Reading

Factories count their runs, also when the reading fails later, so every step
hands the number of runs on. -/

/-- What a field takes its value from. -/
inductive Supply
  | row (value : Json)
  | default (value : Json)
  | initial

/-- A row goes before a default; only the key must come from one of the two. -/
def supply (field : Field) (row : Json) (runs : Nat) : Except RowFault Supply × Nat :=
  match row.member? field.storage with
  | some value => (.ok (.row value), runs)
  | none =>
      match field.default? with
      | some default =>
          let (attempt, runs) := default.produce runs
          match attempt with
          | .ok value => (.ok (.default value), runs)
          | .error thrown => (.error (.defaultFactory field.storage thrown), runs)
      | none =>
          if field.isKey then (.error (.missingKey field.storage), runs)
          else (.ok .initial, runs)

/-- The record with the member of a binding taken from its supply. -/
def accept (binding : Binding recordType) (record : Record recordType) :
    Supply → Except RowFault (Record recordType)
  | .row value =>
      match record.decode? binding.member value with
      | some record => .ok record
      | none => .error (.value binding.field.storage binding.field.type)
  | .default value =>
      match record.decode? binding.member value with
      | some record => .ok record
      | none => .error (.defaultValue binding.field.storage binding.field.type)
  | .initial => .ok record

def readFields (row : Json) : List (Binding recordType) → Record recordType → Nat →
    Except RowFault (Record recordType) × Nat
  | [], record, runs => (.ok record, runs)
  | binding :: rest, record, runs =>
      let (supplied, runs) := supply binding.field row runs
      match supplied >>= accept binding record with
      | .ok record => readFields row rest record runs
      | .error fault => (.error fault, runs)

/-- Every member that no field sets has its initial value. -/
def readRow (mapper : Mapper recordType Payload) (position : Nat) (row : Json) (runs : Nat) :
    Except RowError (Record recordType) × Nat :=
  match mapper.definition.keysFault? row with
  | some fault => (.error ⟨position, fault⟩, runs)
  | none =>
      let (read, runs) := readFields row mapper.bindings (.initial recordType) runs
      (read.mapError (⟨position, ·⟩), runs)

/-- The rows are read in order, from the given position on. -/
def readRows (mapper : Mapper recordType Payload) (position : Nat) :
    List Json → Nat → Except RowError (List (Record recordType)) × Nat
  | [], runs => (.ok [], runs)
  | row :: rest, runs =>
      let (read, runs) := mapper.readRow position row runs
      match read with
      | .error error => (.error error, runs)
      | .ok record =>
          let (others, runs) := mapper.readRows (position + 1) rest runs
          (others.map (record :: ·), runs)

end Mapper

/-! ## Through a mapper that may not have bound

A mapper that did not bind fails on every record and row; a batch of none needs
no mapper. -/

namespace Mapper

abbrev Bound (recordType : RecordType) (Payload : Type) : Type :=
  Except BindingError (Mapper recordType Payload)

namespace Bound

def serializeRecord (bound : Bound recordType Payload) (record : Record recordType) :
    Except MapperError Json :=
  match bound with
  | .error error => .error (.binding error)
  | .ok mapper => .ok (mapper.writeRow record)

def serialize (bound : Bound recordType Payload) (records : List (Record recordType)) :
    Except MapperError (List Json) :=
  records.mapM bound.serializeRecord

def deserializeRecord (bound : Bound recordType Payload) (position : Nat) (row : Json)
    (runs : Nat) : Except MapperError (Record recordType) × Nat :=
  match bound with
  | .error error => (.error (.binding error), runs)
  | .ok mapper =>
      let (read, runs) := mapper.readRow position row runs
      (read.mapError .row, runs)

def deserialize (bound : Bound recordType Payload) (rows : List Json) (runs : Nat) :
    Except MapperError (List (Record recordType)) × Nat :=
  match bound, rows with
  | _, [] => (.ok [], runs)
  | .error error, _ :: _ => (.error (.binding error), runs)
  | .ok mapper, rows =>
      let (read, runs) := mapper.readRows 0 rows runs
      (read.mapError .row, runs)

end Bound

end Mapper

end CollectionSchema
