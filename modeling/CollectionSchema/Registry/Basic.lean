import CollectionSchema.Collection.Source
import CollectionSchema.Log

/-! # Registries

A registry holds one outcome per record type: the definition built for it or the
failure to build one. An outcome that is there is never replaced.
-/

namespace CollectionSchema

/-! ## Identities -/

/-- A definition as an object: two of them may be equal and yet not the same. -/
structure Shared (Payload : Type) where
  identity : Nat
  definition : CollectionDefinition Payload

/-- A record type is known by its own name. -/
structure TypeId where
  ownName : Text
deriving DecidableEq

/-- A registry is known by its number, and keeps its options for good. -/
structure RegistryId where
  number : Nat
  options : ValidationOptions
deriving DecidableEq

/-! ## Contents -/

/-- A status and a definition, which is there if all is well. -/
structure Outcome (Payload : Type) where
  status : Status
  definition? : Option (Shared Payload)

inductive Entry (Payload : Type)
  | building
  | ready (outcome : Outcome Payload)

def Entry.holdsDefinition {Payload : Type} : Entry Payload → Bool
  | building => false
  | ready outcome => outcome.definition?.isSome

inductive DefinitionState
  | unseen
  | building
  | ready
deriving DecidableEq

def DefinitionState.code : DefinitionState → Nat
  | unseen => 0
  | building => 1
  | ready => 2

/-- Types that were never asked for have no entry. -/
structure Registry (Payload : Type) where
  entries : Dictionary TypeId (Entry Payload) := []
  buildCount : Nat := 0

namespace Registry

variable {Payload : Type}

def find? (registry : Registry Payload) (type : TypeId) : Option (Entry Payload) :=
  Dictionary.get? type registry.entries

def setEntry (registry : Registry Payload) (type : TypeId) (entry : Entry Payload) :
    Registry Payload :=
  { registry with entries := Dictionary.set type entry registry.entries }

def state (registry : Registry Payload) (type : TypeId) : DefinitionState :=
  match registry.find? type with
  | none => .unseen
  | some .building => .building
  | some (.ready _) => .ready

/-- An entry with a definition counts; a failure that is kept does not. -/
def size (registry : Registry Payload) : Nat :=
  registry.entries.countP (·.2.holdsDefinition)

/-- Marks a type as being built. -/
def begin (registry : Registry Payload) (type : TypeId) : Registry Payload :=
  registry.setEntry type .building

/-- Keeps the outcome of a build that has ended. -/
def commit (registry : Registry Payload) (type : TypeId) (outcome : Outcome Payload) :
    Registry Payload :=
  { registry.setEntry type (.ready outcome) with buildCount := registry.buildCount + 1 }

/-! An entry is written for its own type only. -/

@[simp] theorem find?_setEntry_self (registry : Registry Payload) (type : TypeId)
    (entry : Entry Payload) : (registry.setEntry type entry).find? type = some entry := by
  simp [find?, setEntry]

@[simp] theorem find?_setEntry_of_ne (registry : Registry Payload) {type other : TypeId}
    (different : other ≠ type) (entry : Entry Payload) :
    (registry.setEntry type entry).find? other = registry.find? other := by
  simp [find?, setEntry, different]

end Registry

/-! ## Builds -/

namespace Outcome

variable {Payload : Type}

def failure (kind : ErrorKind) (message : Text) : Outcome Payload :=
  ⟨.failure kind message, none⟩

/-- What a registry keeps of a build. One that throws has failed, and so has one
that reports success without a definition; a failed one leaves no definition. -/
def ofBuild (attempt : Attempt (Outcome Payload)) : Outcome Payload :=
  match attempt with
  | .error thrown => .failure .unexpected (thrown.describe "Build function failed")
  | .ok ⟨.failed failure, _⟩ => ⟨.failed failure, none⟩
  | .ok ⟨.ok, none⟩ =>
      .failure .unexpected "Build function returned no collection definition."
  | .ok ⟨.ok, some shared⟩ => ⟨.ok, some shared⟩

end Outcome

/-! ## Records -/

namespace Registry

variable {Payload : Type}

def component : Text := "registry"

def registeredRecord (definition : CollectionDefinition Payload) : LogRecord :=
  { level := .info
    component
    message := "Registered collection definition '" ++ definition.name ++ "' with " ++
      Text.ofNat definition.fields.length ++ " fields." }

/-- The label names the type in the record, and its own name if there is none. -/
def failedRecord (type : TypeId) (label : Text) (status : Status) : LogRecord :=
  { level := .warning
    component
    message := "Failed to build collection definition for '" ++
      (if label.isEmpty then type.ownName else label) ++ "': " ++ status.toText }

/-- The record of a build that has ended. -/
def buildRecord (type : TypeId) (label : Text) (outcome : Outcome Payload) : LogRecord :=
  match outcome.definition? with
  | some shared => registeredRecord shared.definition
  | none => failedRecord type label outcome.status

/-! ## Registering -/

inductive RegisterError
  | noDefinition
  | alreadyPresent (type : TypeId)
deriving DecidableEq

def RegisterError.status : RegisterError → Status
  | noDefinition => .failure .unexpected "Cannot register an empty collection definition."
  | alreadyPresent type =>
      .failure .alreadyExists
        ("Collection definition already exists for type: " ++ type.ownName)

/-- Keeps a definition that was made elsewhere. -/
def register (registry : Registry Payload) (type : TypeId) (shared : Shared Payload) :
    Registry Payload :=
  registry.setEntry type (.ready ⟨.ok, some shared⟩)

end Registry

end CollectionSchema
