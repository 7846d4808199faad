import CollectionSchema.Field.Role

/-! # Field types

The value types that a field can declare to the backing store.
-/

namespace CollectionSchema

/-- The element type of a real number or vector. -/
inductive Precision
  | single
  | double
deriving DecidableEq

inductive IntegerWidth
  | w8
  | w16
  | w32
  | w64
deriving DecidableEq

/-- Dense vectors may instead hold the source text that they will be computed from. -/
inductive FieldType
  | integer (width : IntegerWidth)
  | real (precision : Precision)
  | string
  | bool
  | json
  | vector (precision : Precision)
  | vectorOrText (precision : Precision)
  | sparseVector (precision : Precision)
  | unknown
deriving DecidableEq

namespace FieldType

def code : FieldType → Int
  | integer .w8 => 1
  | integer .w16 => 2
  | integer .w32 => 3
  | integer .w64 => 4
  | real .single => 10
  | real .double => 11
  | string => 20
  | bool => 30
  | json => 31
  | vector .single => 40
  | vector .double => 41
  | vectorOrText .single => 42
  | vectorOrText .double => 43
  | sparseVector .single => 50
  | sparseVector .double => 51
  | unknown => 999

def all : List FieldType :=
  [integer .w8, integer .w16, integer .w32, integer .w64, real .single, real .double,
    string, bool, json, vector .single, vector .double, vectorOrText .single,
    vectorOrText .double, sparseVector .single, sparseVector .double, unknown]

theorem mem_all (type : FieldType) : type ∈ all := by
  cases type with
  | integer width => cases width <;> decide
  | real precision => cases precision <;> decide
  | vector precision => cases precision <;> decide
  | vectorOrText precision => cases precision <;> decide
  | sparseVector precision => cases precision <;> decide
  | _ => decide

def ofCode? (code : Int) : Option FieldType := all.find? (·.code = code)

def name : FieldType → Text
  | integer .w8 => "TINYINT"
  | integer .w16 => "SMALLINT"
  | integer .w32 => "INT"
  | integer .w64 => "BIGINT"
  | real .single => "FLOAT"
  | real .double => "DOUBLE"
  | string => "STRING"
  | bool => "BOOL"
  | json => "JSON"
  | vector .single => "VECTOR_FLOAT"
  | vector .double => "VECTOR_DOUBLE"
  | vectorOrText .single => "VECTOR_FLOAT_OR_STRING"
  | vectorOrText .double => "VECTOR_DOUBLE_OR_STRING"
  | sparseVector .single => "SPARSE_VECTOR_FLOAT"
  | sparseVector .double => "SPARSE_VECTOR_DOUBLE"
  | unknown => "UNKNOWN"

/-! ## Kinds of types -/

def isInteger : FieldType → Bool
  | integer _ => true
  | _ => false

/-- Dense, sparse and vector-or-text types. -/
def isVector : FieldType → Bool
  | vector _ | vectorOrText _ | sparseVector _ => true
  | _ => false

def isVectorOrText : FieldType → Bool
  | vectorOrText _ => true
  | _ => false

/-- A dense vector that may also hold its source text; other types stay as they are. -/
def withSourceText : FieldType → FieldType
  | vector precision => vectorOrText precision
  | type => type

/-- A key is an integer, a string, or of a type left to the store. -/
def suitsKey (type : FieldType) : Bool := type.isInteger || type = string || type = unknown

/-- A vector field holds the embedding, the text it will be computed from, or both. -/
def suitsVector (type : FieldType) : Bool := type.isVector || type = string || type = unknown

/-! ## Codes of no type

A type code may come from outside. One that names no type reads as unknown, and
adding source text leaves it as it is. -/

def nameOfCode (code : Int) : Text := (((ofCode? code).map name).getD unknown.name)

def isIntegerCode (code : Int) : Bool := ((ofCode? code).map isInteger).getD false

def isVectorCode (code : Int) : Bool := ((ofCode? code).map isVector).getD false

def codeWithSourceText (code : Int) : Int :=
  ((ofCode? code).map fun type => type.withSourceText.code).getD code

/-! ## Tokens -/

/-- The tokens of each type, in lower case. -/
def tokens : List (Text × FieldType) :=
  [("tinyint", integer .w8), ("smallint", integer .w16), ("int", integer .w32),
    ("bigint", integer .w64), ("long", integer .w64), ("float", real .single),
    ("double", real .double), ("string", string), ("str", string), ("text", string),
    ("bool", bool), ("boolean", bool), ("json", json), ("vector_float", vector .single),
    ("vector_double", vector .double), ("vector_float_or_string", vectorOrText .single),
    ("vector_double_or_string", vectorOrText .double),
    ("sparse_vector_float", sparseVector .single),
    ("sparse_vector_double", sparseVector .double)]

/-- On a vector field, the name of an element type means a dense vector of it. -/
def onField (role : Role) (type : FieldType) : FieldType :=
  match role, type with
  | .vector, real precision => vector precision
  | _, type => type

@[simp] theorem onField_onField (role : Role) (type : FieldType) :
    (type.onField role).onField role = type.onField role := by
  cases role with
  | vector => cases type <;> rfl
  | _ => rfl

/-- Types are written by token, in any case. -/
def parse? (role : Role) (token : Text) : Option FieldType :=
  (tokens.lookup token.lower).map (onField role)

/-- The name of a type reads back as the type that the field then has. -/
theorem parse?_name (role : Role) {type : FieldType} (known : type ≠ unknown) :
    parse? role type.name = some (onField role type) := by
  have listed : ∀ type ∈ all, type ≠ unknown → tokens.lookup type.name.lower = some type := by
    decide
  simp [parse?, listed type type.mem_all known]

end FieldType

end CollectionSchema
