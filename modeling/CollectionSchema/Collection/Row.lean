import CollectionSchema.Collection.Definition

/-! # Rows

A row is an object keyed by storage names. Containers take only rows that carry
no other keys and carry the key field.
-/

namespace CollectionSchema

/-! ## Errors -/

inductive RowFault
  | notObject
  | unknownField (key : Text)
  | missingKey (name : Text)
  | value (name : Text) (type : FieldType)
  | defaultValue (name : Text) (type : FieldType)
  | defaultFactory (name : Text) (thrown : Thrown)
deriving DecidableEq

def RowFault.message : RowFault → Text
  | notObject => "row is not an object."
  | unknownField key => "unknown field '" ++ key ++ "'."
  | missingKey name => "missing key field '" ++ name ++ "'."
  | value name type =>
      "value of field '" ++ name ++ "' does not match type " ++ type.name ++ "."
  | defaultValue name type =>
      "default value of field '" ++ name ++ "' does not match type " ++ type.name ++ "."
  | defaultFactory name thrown =>
      thrown.describe ("default factory of '" ++ name ++ "' failed")

/-- What is wrong with the row at a position. -/
structure RowError where
  position : Nat
  fault : RowFault
deriving DecidableEq

namespace RowError

def message (error : RowError) : Text :=
  "Row " ++ Text.ofNat error.position ++ ": " ++ error.fault.message

def status (error : RowError) : Status := .failure .serialization error.message

end RowError

/-! ## Checks -/

namespace CollectionDefinition

variable {Payload : Type}

/-- The row is an object and every key of it names a field. -/
def keysFault? (definition : CollectionDefinition Payload) (row : Json) : Option RowFault :=
  if !row.isObject then some .notObject
  else
    (row.keys.find? fun key => (definition.rowField? key).isNone).map .unknownField

def rowFault? (definition : CollectionDefinition Payload) (row : Json) : Option RowFault :=
  (definition.keysFault? row).or
    (if row.hasMember definition.keyName then none else some (.missingKey definition.keyName))

def checkRow (definition : CollectionDefinition Payload) (position : Nat) (row : Json) :
    Except RowError Unit :=
  match definition.rowFault? row with
  | some fault => .error ⟨position, fault⟩
  | none => .ok ()

/-- The rows are checked in order, from the given position on. -/
def checkRows (definition : CollectionDefinition Payload) (position : Nat) :
    List Json → Except RowError Unit
  | [] => .ok ()
  | row :: rest => do
      definition.checkRow position row
      definition.checkRows (position + 1) rest

end CollectionDefinition

end CollectionSchema
