import CollectionSchema.Collection.Container
import CollectionSchema.Registry.Basic

/-! # Programs

What client code does with registries, as a tree of requests. A build is a
program too, so it may ask any registry while its own outcome is still open. It
must not ask for the type that it builds, since that answer waits on itself.
-/

namespace CollectionSchema

/-! ## Requests -/

/-- A program that ends with a value of the last type. The build given with a
`request` runs only for a type without an entry, and tells what else it has
found beside its outcome. -/
inductive Program (Payload : Type) : Type → Type 1
  | done {Value : Type} (value : Value) : Program Payload Value
  | emit {Value : Type} (record : LogRecord) (next : Program Payload Value) :
      Program Payload Value
  | share {Value : Type} (definition : CollectionDefinition Payload)
      (next : Shared Payload → Program Payload Value) : Program Payload Value
  | request {Found Value : Type} (registry : RegistryId) (type : TypeId) (label : Text)
      (build : Program Payload (Attempt (Outcome Payload) × Found))
      (next : Outcome Payload × Option Found → Program Payload Value) : Program Payload Value
  | register {Value : Type} (registry : RegistryId) (type : TypeId)
      (definition? : Option (Shared Payload)) (next : Status → Program Payload Value) :
      Program Payload Value
  | inspect {Value : Type} (registry : RegistryId)
      (next : Registry Payload → Program Payload Value) : Program Payload Value

namespace Program

variable {Payload : Type}

def bind {First Second : Type} (program : Program Payload First)
    (rest : First → Program Payload Second) : Program Payload Second :=
  match program with
  | .done value => rest value
  | .emit record next => .emit record (next.bind rest)
  | .share definition next => .share definition fun shared => (next shared).bind rest
  | .request registry type label build next =>
      .request registry type label build fun answer => (next answer).bind rest
  | .register registry type definition? next =>
      .register registry type definition? fun status => (next status).bind rest
  | .inspect registry next => .inspect registry fun contents => (next contents).bind rest

instance : Monad (Program Payload) where
  pure := .done
  bind := .bind

end Program

/-! ## Sessions -/

/-- The state that programs run on. Every registry is empty at first. -/
structure Session (Payload : Type) where
  journal : Journal := {}
  nextIdentity : Nat := 0
  registries : RegistryId → Registry Payload := fun _ => {}

namespace Session

variable {Payload : Type}

def write (session : Session Payload) (record : LogRecord) : Session Payload :=
  { session with journal := session.journal.write record }

def setRegistry (session : Session Payload) (id : RegistryId) (registry : Registry Payload) :
    Session Payload :=
  { session with
    registries := fun other => if other = id then registry else session.registries other }

@[simp] theorem registries_setRegistry_self (session : Session Payload) (id : RegistryId)
    (registry : Registry Payload) : (session.setRegistry id registry).registries id = registry := by
  simp [setRegistry]

@[simp] theorem registries_setRegistry_of_ne (session : Session Payload)
    {id other : RegistryId} (different : other ≠ id) (registry : Registry Payload) :
    (session.setRegistry id registry).registries other = session.registries other := by
  simp [setRegistry, different]

end Session

namespace Program

variable {Payload : Type}

/-- The run of a program, or nothing if a build waits on itself. A type that has
an entry is answered from it; for any other the build runs, and its outcome is
kept before anybody else sees it. Registering waits on a build likewise. -/
def run {Value : Type} (program : Program Payload Value) (session : Session Payload) :
    Option (Value × Session Payload) :=
  match program with
  | .done value => some (value, session)
  | .emit record next => next.run (session.write record)
  | .share definition next =>
      (next ⟨session.nextIdentity, definition⟩).run
        { session with nextIdentity := session.nextIdentity + 1 }
  | .request id type label build next =>
      match (session.registries id).find? type with
      | some (.ready outcome) => (next (outcome, none)).run session
      | some .building => none
      | none =>
          match build.run (session.setRegistry id ((session.registries id).begin type)) with
          | none => none
          | some ((attempt, found), built) =>
              let outcome := Outcome.ofBuild attempt
              (next (outcome, some found)).run
                ((built.write (Registry.buildRecord type label outcome)).setRegistry id
                  ((built.registries id).commit type outcome))
  | .register _ _ none next => (next Registry.RegisterError.noDefinition.status).run session
  | .register id type (some shared) next =>
      match (session.registries id).find? type with
      | some .building => none
      | some (.ready _) => (next (Registry.RegisterError.alreadyPresent type).status).run session
      | none =>
          (next .ok).run
            ((session.setRegistry id ((session.registries id).register type shared)).write
              (Registry.registeredRecord shared.definition))
  | .inspect id next => (next (session.registries id)).run session

/-- A program that is bound to another one runs before it. -/
theorem run_bind {First Second : Type} (program : Program Payload First)
    (rest : First → Program Payload Second) (session : Session Payload) :
    (program.bind rest).run session =
      (program.run session).bind fun result => (rest result.1).run result.2 := by
  induction program generalizing session with
  | done value => rfl
  | emit record next induction => exact induction rest (session.write record)
  | share definition next induction => exact induction _ rest _
  | request id type label build next _ induction =>
      simp only [bind, run]
      split
      · exact induction _ rest _
      · rfl
      · split
        · rfl
        · exact induction _ rest _
  | register id type definition? next induction =>
      cases definition? with
      | none => exact induction _ rest session
      | some shared =>
          simp only [bind, run]
          split
          · rfl
          · exact induction _ rest session
          · exact induction _ rest _
  | inspect id next induction => exact induction _ rest session

/-! ## Definitions and containers in programs -/

/-- A definition made into an object; a refused draft leaves its record. -/
def define (made : Except DefinitionError (CollectionDefinition Payload)) :
    Program Payload (Outcome Payload) :=
  match made with
  | .ok definition => .share definition fun shared => .done ⟨.ok, some shared⟩
  | .error error =>
      match error.record? with
      | some record => .emit record (.done ⟨error.status, none⟩)
      | none => .done ⟨error.status, none⟩

/-- The definition of a record type, extracted under the registry's own options
when it is first asked for. Describing the type is client code. -/
def get {recordType : RecordType} (registry : RegistryId) (type : TypeId)
    (describe : Attempt (RecordDescriptor recordType)) :
    Program Payload (Outcome Payload) :=
  let build : Program Payload (Attempt (Outcome Payload) × Unit) :=
    match describe with
    | .error thrown => .done (.error thrown, ())
    | .ok descriptor =>
        (define (descriptor.extract registry.options)).bind fun outcome =>
          .done (.ok outcome, ())
  .request registry type .empty build fun answer => .done answer.1

/-- The record of a failed hook is written before the failure is handed on. -/
def logged {Value : Type} (definition : CollectionDefinition Payload)
    (result : Except ContainerError Value) : Program Payload (Except ContainerError Value) :=
  match result with
  | .ok value => .done (.ok value)
  | .error error =>
      match error.record? definition.name with
      | some record => .emit record (.done (.error error))
      | none => .done (.error error)

def pack (definition : CollectionDefinition Payload) (rows : List Json) :
    Program Payload (Except ContainerError (Container Payload)) :=
  logged definition (definition.pack rows)

def unpack (definition : CollectionDefinition Payload) (container : Container Payload)
    (expected : Int) : Program Payload (Except ContainerError (List Json)) :=
  logged definition (definition.unpack container expected)

end Program

end CollectionSchema
