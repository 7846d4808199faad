import CollectionSchema.Field.Basic

/-! # Collection definitions

The checked schema of a collection, with the views that other parts read. A
definition comes out of `Draft.build` and is not changed afterwards.
-/

namespace CollectionSchema

/-! ## Containers -/

/-- A bulk value: nothing, the row list itself, or a value of the application. -/
inductive Container (Payload : Type)
  | empty
  | rows (rows : List Json)
  | payload (value : Payload)

/-- The application's way to a container and back. -/
structure Hooks (Payload : Type) where
  pack : List Json → Attempt (Container Payload)
  unpack : Container Payload → Attempt (List Json)

/-! ## Definitions -/

structure CollectionDefinition (Payload : Type) where
  name : Text
  fields : List Field
  keyIndex : Nat
  keyIndex_lt : keyIndex < fields.length
  containerMode : Bool
  hooks? : Option (Hooks Payload)

namespace CollectionDefinition

variable {Payload : Type}

def keyField (definition : CollectionDefinition Payload) : Field :=
  definition.fields.get ⟨definition.keyIndex, definition.keyIndex_lt⟩

def keyName (definition : CollectionDefinition Payload) : Text := definition.keyField.storage

def dataFields (definition : CollectionDefinition Payload) : List Field :=
  definition.fields.filter Field.isData

def vectorFields (definition : CollectionDefinition Payload) : List Field :=
  definition.fields.filter Field.isVector

/-- A field by its name in the store, or else by the member that it is bound to. -/
def field? (definition : CollectionDefinition Payload) (name : Text) : Option Field :=
  (definition.fields.find? (·.storage = name)).or
    (definition.fields.find? fun field => !field.property.isEmpty && field.property = name)

/-- The field that a row key names. -/
def rowField? (definition : CollectionDefinition Payload) (key : Text) : Option Field :=
  (definition.field? key).filter (·.storage = key)

def storageNames (definition : CollectionDefinition Payload) (includeVectors : Bool) :
    List Text :=
  (definition.fields.filter fun field => includeVectors || !field.isVector).map (·.storage)

theorem storageNames_true (definition : CollectionDefinition Payload) :
    definition.storageNames true = definition.fields.map Field.storage := by
  rw [storageNames, List.filter_eq_self.mpr fun _ _ => Bool.true_or _]

/-- The members that fields are bound to. -/
def propertyNames (definition : CollectionDefinition Payload) : List Text :=
  (definition.fields.map (·.property)).filter (!·.isEmpty)

def hasHooks (definition : CollectionDefinition Payload) : Bool := definition.hooks?.isSome

end CollectionDefinition

end CollectionSchema
