import CollectionSchema.Collection.Definition
import CollectionSchema.Collection.Validation
import CollectionSchema.Log

/-! # Drafts

A collection definition under construction. Every way to a definition ends in
`Draft.build`, so all definitions satisfy the same invariants.
-/

namespace CollectionSchema

/-- The two container hooks may be set apart; building refuses one alone. -/
structure Draft (Payload : Type) where
  name : Text := .empty
  fields : List Field := []
  containerMode : Bool := false
  pack? : Option (List Json → Attempt (Container Payload)) := none
  unpack? : Option (Container Payload → Attempt (List Json)) := none
  options : ValidationOptions := {}

namespace Draft

variable {Payload : Type}

def addField (draft : Draft Payload) (field : Field) : Draft Payload :=
  { draft with fields := draft.fields ++ [field] }

/-- One change to a draft. The hooks are set together, either of them to none. -/
inductive Edit (Payload : Type)
  | name (name : Text)
  | addField (field : Field)
  | fields (fields : List Field)
  | containerMode (flag : Bool)
  | hooks (pack? : Option (List Json → Attempt (Container Payload)))
      (unpack? : Option (Container Payload → Attempt (List Json)))
  | options (options : ValidationOptions)

def edit (draft : Draft Payload) : Edit Payload → Draft Payload
  | .name name => { draft with name }
  | .addField field => draft.addField field
  | .fields fields => { draft with fields }
  | .containerMode containerMode => { draft with containerMode }
  | .hooks pack? unpack? => { draft with pack?, unpack? }
  | .options options => { draft with options }

def editAll (draft : Draft Payload) (edits : List (Edit Payload)) : Draft Payload :=
  edits.foldl edit draft

/-- The fields with their storage names written out. -/
def resolvedFields (draft : Draft Payload) : List Field := draft.fields.map Field.resolve

/-- Both hooks or none, and hooks in container mode only. -/
def pairHooks (draft : Draft Payload) : Except ValidationError (Option (Hooks Payload)) :=
  match draft.pack?, draft.unpack? with
  | some pack, some unpack =>
      if draft.containerMode then .ok (some ⟨pack, unpack⟩)
      else .error .hooksOutsideContainerMode
  | none, none => .ok none
  | _, _ => .error .unpairedHooks

def build (draft : Draft Payload) : Except ValidationError (CollectionDefinition Payload) :=
  match validate draft.options draft.resolvedFields with
  | .error error => .error error
  | .ok keyIndex =>
      match draft.pairHooks with
      | .error error => .error error
      | .ok hooks? =>
          .ok {
            name := draft.name
            fields := draft.resolvedFields
            keyIndex := keyIndex
            keyIndex_lt := keyIndex.isLt
            containerMode := draft.containerMode
            hooks? }

end Draft

/-! ## Refusals -/

/-- The record that a refused draft leaves. -/
def ValidationError.rejection (name : Text) (error : ValidationError) : LogRecord :=
  { level := .debug
    component := "catalog"
    message := "Rejected collection definition '" ++ name ++ "': " ++ error.message }

end CollectionSchema
