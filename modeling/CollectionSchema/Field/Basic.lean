import CollectionSchema.Attempt
import CollectionSchema.Field.Type
import CollectionSchema.Json

/-! # Fields

A field of a collection: its role, the record member it is bound to, its name in
the backing store, its value type and the attributes of its role.
-/

namespace CollectionSchema

/-! ## Defaults -/

/-- What a record gets for a field that its row omits: a fixed value, or one
that a factory makes anew. A factory is told how many factories ran before it,
so its runs may differ from one another. -/
inductive Default
  | fixed (value : Json)
  | factory (run : Nat → Attempt Json)

/-- The outcome, with the number of factory runs after it. -/
def Default.produce (default : Default) (runs : Nat) : Attempt Json × Nat :=
  match default with
  | .fixed value => (.ok value, runs)
  | .factory run => (run runs, runs + 1)

/-! ## Fields -/

/-- Dimensions, index kind and distance function belong to vector fields, the
two flags to data fields; other fields may carry them without effect. -/
structure Field where
  role : Role := .data
  property : Text := .empty
  storage : Text := .empty
  type : FieldType := .unknown
  dimensions : UInt64 := 0
  indexKind : Text := .empty
  distanceFunction : Text := .empty
  fullTextIndexed : Bool := false
  filterable : Bool := false
  default? : Option Default := none

namespace Field

instance : Inhabited Field := ⟨{}⟩

/-- The name in the store, which falls back to the member's name. -/
def resolvedName (field : Field) : Text :=
  if field.storage.isEmpty then field.property else field.storage

/-- The field with its storage name written out. -/
def resolve (field : Field) : Field := { field with storage := field.resolvedName }

@[simp] theorem storage_resolve (field : Field) : field.resolve.storage = field.resolvedName :=
  rfl

@[simp] theorem resolvedName_resolve (field : Field) :
    field.resolve.resolvedName = field.resolvedName := by
  by_cases unnamed : field.storage.isEmpty = true
  · by_cases unbound : field.property.isEmpty = true <;>
      simp [resolve, resolvedName, unnamed, unbound]
  · simp [resolve, resolvedName, unnamed]

@[simp] theorem resolve_resolve (field : Field) : field.resolve.resolve = field.resolve := by
  rw [resolve, resolvedName_resolve]
  rfl

def isKey (field : Field) : Bool := field.role = .key

def isData (field : Field) : Bool := field.role = .data

def isVector (field : Field) : Bool := field.role = .vector

/-! ## Fields without a member

Tabular definitions name their fields in the store only. -/

def key (storage : Text) (type : FieldType) : Field :=
  { role := .key, storage, type }

def data (storage : Text) (type : FieldType) (fullTextIndexed filterable : Bool) : Field :=
  { role := .data, storage, type, fullTextIndexed, filterable }

def vector (storage : Text) (dimensions : UInt64) (type : FieldType)
    (indexKind distanceFunction : Text) : Field :=
  { role := .vector, storage, type, dimensions, indexKind, distanceFunction }

end Field

/-! ## Tokens -/

/-- A token that names no role or no type. -/
inductive TokenError
  | role (token : Text)
  | type (token : Text)
deriving DecidableEq

namespace TokenError

def message : TokenError → Text
  | role token => "Unrecognized field role: '" ++ token ++ "', expected key, data or vector."
  | type token => "Unrecognized field type: '" ++ token ++ "'."

def status (error : TokenError) : Status := .failure .schema error.message

end TokenError

def Role.read (token : Text) : Except TokenError Role :=
  match parse? token with
  | some role => .ok role
  | none => .error (.role token)

def FieldType.read (role : Role) (token : Text) : Except TokenError FieldType :=
  match parse? role token with
  | some type => .ok type
  | none => .error (.type token)

end CollectionSchema
