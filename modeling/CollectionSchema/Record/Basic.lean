import CollectionSchema.Field.Marking
import CollectionSchema.Value.Codec

/-! # Records

A record type has members of value types, each with an initial value. It
publishes a list of declarations, and those that carry a marking make up the
schema of its collection.
-/

namespace CollectionSchema

structure RecordType where
  Member : Type
  decidableEq : DecidableEq Member
  type : Member → ValueType
  initial : (member : Member) → (type member).Value

instance (recordType : RecordType) : DecidableEq recordType.Member := recordType.decidableEq

abbrev Record (recordType : RecordType) : Type :=
  (member : recordType.Member) → (recordType.type member).Value

namespace Record

variable {recordType : RecordType}

def initial (recordType : RecordType) : Record recordType := recordType.initial

def set (record : Record recordType) (member : recordType.Member)
    (value : (recordType.type member).Value) : Record recordType := fun other =>
  if equal : other = member then equal ▸ value else record other

@[simp] theorem set_self (record : Record recordType) (member : recordType.Member)
    (value : (recordType.type member).Value) : record.set member value member = value := by
  simp [set]

@[simp] theorem set_of_ne (record : Record recordType) {member other : recordType.Member}
    (different : other ≠ member) (value : (recordType.type member).Value) :
    record.set member value other = record other := by
  simp [set, different]

/-- The row form of a member. -/
def encode (record : Record recordType) (member : recordType.Member) : Json :=
  (recordType.type member).encode (record member)

/-- The record with a member read from its row form. -/
def decode? (record : Record recordType) (member : recordType.Member) (value : Json) :
    Option (Record recordType) :=
  ((recordType.type member).decode value).map (record.set member)

end Record

/-! ## Declarations -/

/-- A default in the member's own type. -/
inductive TypedDefault (type : ValueType)
  | fixed (value : type.Value)
  | factory (run : Nat → Attempt type.Value)

def TypedDefault.encode {type : ValueType} : TypedDefault type → Default
  | fixed value => .fixed (type.encode value)
  | factory run => .factory fun runs => (run runs).map type.encode

/-- A member without a marking may be of any type, one that has no value type
declaring the unknown field type; it is never read or written. -/
inductive Declaration (recordType : RecordType)
  | plain (name : Text) (declaredType : FieldType)
  | marked (name : Text) (member : recordType.Member) (marking : Marking)
      (default? : Option (TypedDefault (recordType.type member)))

namespace Declaration

variable {recordType : RecordType}

def descriptor : Declaration recordType → FieldDescriptor
  | plain name declaredType => { name, declaredType }
  | marked name member marking default? =>
      { name
        declaredType := (recordType.type member).fieldType
        marking? := some marking
        default? := default?.map TypedDefault.encode }

/-- The member, if the declaration carries a marking and has the name. -/
def boundTo? (property : Text) : Declaration recordType → Option recordType.Member
  | plain _ _ => none
  | marked name member _ _ => if name = property then some member else none

end Declaration

structure RecordDescriptor (recordType : RecordType) where
  typeName : Text
  declarations : List (Declaration recordType)

namespace RecordDescriptor

variable {recordType : RecordType}

def descriptors (descriptor : RecordDescriptor recordType) : List FieldDescriptor :=
  descriptor.declarations.map Declaration.descriptor

/-- The first marked member of the name. -/
def member? (descriptor : RecordDescriptor recordType) (property : Text) :
    Option recordType.Member :=
  descriptor.declarations.findSome? (Declaration.boundTo? property)

end RecordDescriptor

end CollectionSchema
