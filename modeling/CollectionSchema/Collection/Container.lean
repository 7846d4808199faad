import CollectionSchema.Collection.Row
import CollectionSchema.Log

/-! # Containers

Rows packed into one bulk value and unpacked again, for definitions in container
mode. Without hooks the container is the row list. Only checked rows go in, and
only checked rows come out.
-/

namespace CollectionSchema

/-! ## Errors -/

inductive ContainerError
  | notContainerMode (name : Text)
  | row (error : RowError)
  | noRowList
  | packHook (thrown : Thrown)
  | unpackHook (thrown : Thrown)
  | rowCount (produced : Nat) (expected : Int)
deriving DecidableEq

namespace ContainerError

def message : ContainerError → Text
  | notContainerMode name => "Collection definition '" ++ name ++ "' is not in container mode."
  | row error => error.message
  | noRowList => "Container does not hold a row list."
  | packHook thrown => thrown.describe "toContainer hook failed"
  | unpackHook thrown => thrown.describe "fromContainer hook failed"
  | rowCount produced expected =>
      "Container produced " ++ Text.ofNat produced ++ " rows, expected " ++
        Text.ofInt expected ++ "."

def status (error : ContainerError) : Status := .failure .serialization error.message

/-- Whether a hook failed, which is logged. -/
def ofHook : ContainerError → Bool
  | packHook _ | unpackHook _ => true
  | _ => false

def record? (name : Text) (error : ContainerError) : Option LogRecord :=
  if error.ofHook then
    some {
      level := .error
      component := "container"
      message := "Collection '" ++ name ++ "': " ++ error.message }
  else none

end ContainerError

/-- The rows of a container that is the row list itself. -/
def Container.listed {Payload : Type} : Container Payload → Except ContainerError (List Json)
  | .rows held => .ok held
  | _ => .error .noRowList

namespace CollectionDefinition

variable {Payload : Type}

def checkContainerMode (definition : CollectionDefinition Payload) :
    Except ContainerError Unit :=
  if definition.containerMode then .ok () else .error (.notContainerMode definition.name)

/-- Only rows that pass here are packed. -/
def checkPacking (definition : CollectionDefinition Payload) (rows : List Json) :
    Except ContainerError Unit := do
  definition.checkContainerMode
  (definition.checkRows 0 rows).mapError .row

/-- A negative count expects nothing. -/
def checkRowCount (expected : Int) (rows : List Json) : Except ContainerError Unit :=
  if 0 ≤ expected ∧ (rows.length : Int) ≠ expected then
    .error (.rowCount rows.length expected)
  else .ok ()

/-- Only rows that pass here are handed out; their count is checked before the rows. -/
def checkUnpacked (definition : CollectionDefinition Payload) (expected : Int)
    (rows : List Json) : Except ContainerError (List Json) := do
  checkRowCount expected rows
  (definition.checkRows 0 rows).mapError .row
  return rows

/-! A hook is client code and may act in any monad. -/

section Hooks

variable {m : Type → Type} [Monad m]

/-- The container made of checked rows. -/
def packWith (definition : CollectionDefinition Payload)
    (hook? : Option (List Json → m (Attempt (Container Payload)))) (rows : List Json) :
    m (Except ContainerError (Container Payload)) :=
  match definition.checkPacking rows, hook? with
  | .error error, _ => pure (.error error)
  | .ok _, none => pure (.ok (.rows rows))
  | .ok _, some hook => return (← hook rows).mapError .packHook

/-- The checked rows of a container. -/
def unpackWith (definition : CollectionDefinition Payload)
    (hook? : Option (Container Payload → m (Attempt (List Json))))
    (container : Container Payload) (expected : Int) :
    m (Except ContainerError (List Json)) :=
  match definition.checkContainerMode, hook? with
  | .error error, _ => pure (.error error)
  | .ok _, none => return container.listed >>= definition.checkUnpacked expected
  | .ok _, some hook =>
      return (← hook container).mapError .unpackHook >>= definition.checkUnpacked expected

end Hooks

def pack (definition : CollectionDefinition Payload) (rows : List Json) :
    Except ContainerError (Container Payload) :=
  Id.run (definition.packWith (definition.hooks?.map fun hooks => pure ∘ hooks.pack) rows)

def unpack (definition : CollectionDefinition Payload) (container : Container Payload)
    (expected : Int) : Except ContainerError (List Json) :=
  Id.run (definition.unpackWith (definition.hooks?.map fun hooks => pure ∘ hooks.unpack)
    container expected)

end CollectionDefinition

end CollectionSchema
