import CollectionSchema.Dictionary
import CollectionSchema.Number.Binary
import CollectionSchema.Text.Basic

/-! # Values

Values of rows, defaults and documents. An object lists its members in the
order in which they were first set, and an integer is never a double. Integers
are asked for as signed ones of 64 bits, and those too large for that wrap.
-/

namespace CollectionSchema

/-! ## Integers of 64 bits -/

theorem toInt_toInt64_eq (word : UInt64) :
    word.toInt64.toInt =
      if 2 * word.toNat < 0x10000000000000000 then (word.toNat : Int)
      else word.toNat - 0x10000000000000000 :=
  BitVec.toInt_eq_toNat_cond word.toBitVec

/-- An integer that an unsigned word of 64 bits holds, and a signed one does not. -/
structure LargeInteger where
  word : UInt64
  large : 0x8000000000000000 ≤ word.toNat
deriving DecidableEq

namespace LargeInteger

/-- The signed integer of the same bits. -/
def wrapped (integer : LargeInteger) : Int64 := integer.word.toInt64

theorem toInt_wrapped (integer : LargeInteger) :
    integer.wrapped.toInt = integer.word.toNat - 0x10000000000000000 := by
  have large := integer.large
  rw [wrapped, toInt_toInt64_eq, if_neg (by omega)]

theorem wrapped_lt_zero (integer : LargeInteger) : integer.wrapped.toInt < 0 := by
  have small := integer.word.toNat_lt
  rw [toInt_wrapped]
  omega

end LargeInteger

/-! ## Values -/

inductive Json
  | null
  | bool (value : Bool)
  | int (value : Int64)
  | large (value : LargeInteger)
  | double (value : Double)
  | string (value : Text)
  | array (elements : List Json)
  | object (members : List (Text × Json))

namespace Json

instance : Inhabited Json := ⟨null⟩

/-! ## Kinds -/

def isNull : Json → Bool
  | null => true
  | _ => false

def isBool : Json → Bool
  | bool _ => true
  | _ => false

def isInteger : Json → Bool
  | int _ | large _ => true
  | _ => false

def isNumber : Json → Bool
  | int _ | large _ | double _ => true
  | _ => false

def isString : Json → Bool
  | string _ => true
  | _ => false

def isArray : Json → Bool
  | array _ => true
  | _ => false

def isObject : Json → Bool
  | object _ => true
  | _ => false

/-! ## Lenient reading

A value of another kind, or a member that is not there, reads as the zero of
the kind asked for. -/

def asBool : Json → Bool
  | bool value => value
  | _ => false

/-- A large integer reads as the signed one of its bits. -/
def asInteger : Json → Int64
  | int value => value
  | large value => value.wrapped
  | _ => 0

/-- The integer as it is. -/
def integer? : Json → Option Int
  | int value => some value.toInt
  | large value => some value.word.toNat
  | _ => none

/-- The number, an integer being taken to the nearest double. -/
def number? : Json → Option Double
  | int value => some (.ofInt value.toInt)
  | large value => some (.ofInt value.word.toNat)
  | double value => some value
  | _ => none

def asDouble (json : Json) : Double := json.number?.getD .zero

def asText : Json → Text
  | string value => value
  | _ => .empty

def elements : Json → List Json
  | array elements => elements
  | _ => []

def members : Json → List (Text × Json)
  | object members => members
  | _ => []

/-- The number of elements or members. -/
def size : Json → Nat
  | array elements => elements.length
  | object members => members.length
  | _ => 0

def keys (json : Json) : List Text := Dictionary.keys json.members

def member? (json : Json) (key : Text) : Option Json := Dictionary.get? key json.members

def member (json : Json) (key : Text) : Json := (json.member? key).getD null

def hasMember (json : Json) (key : Text) : Bool := (json.member? key).isSome

/-- The value itself if it is an object, and null otherwise. -/
def orNullUnlessObject (json : Json) : Json := if json.isObject then json else null

def element (json : Json) (index : Nat) : Json := json.elements[index]?.getD null

/-- The number of elements of the array that a member holds. -/
def memberSize (json : Json) (key : Text) : Nat := (json.member key).elements.length

def memberElement (json : Json) (key : Text) (index : Nat) : Json :=
  (json.member key).element index

/-! ## Writing

Members are set on objects and elements are added to arrays, which a null becomes
then. Nothing is ever written to a value of another kind; it stays as it is. -/

def set (json : Json) (key : Text) (value : Json) : Json :=
  match json with
  | object members => object (Dictionary.set key value members)
  | null => object [(key, value)]
  | other => other

def push (json : Json) (value : Json) : Json :=
  match json with
  | array elements => array (elements ++ [value])
  | null => array [value]
  | other => other

/-- Adds an element to the array held by a member, or to a new one. -/
def pushTo (json : Json) (key : Text) (value : Json) : Json :=
  json.set key ((json.member key).push value)

/-- Sets a member to an array, adding one element after another to it. -/
def setArray (json : Json) (key : Text) (elements : List Json) : Json :=
  elements.foldl (fun made element => made.pushTo key element) (json.set key (array []))

/-- One of the setters with its argument: a value of one kind, a value of any kind, or an
array by its elements. -/
inductive Setter
  | null
  | bool (value : Bool)
  | int (value : Int64)
  | double (value : Double)
  | string (value : Text)
  | any (value : Json)
  | elements (values : List Json)

def put (json : Json) (key : Text) : Setter → Json
  | .null => json.set key null
  | .bool value => json.set key (bool value)
  | .int value => json.set key (int value)
  | .double value => json.set key (double value)
  | .string value => json.set key (string value)
  | .any value => json.set key value
  | .elements values => json.setArray key values

def putAll (json : Json) (calls : List (Text × Setter)) : Json :=
  calls.foldl (fun made call => made.put call.1 call.2) json

/-! An object is well formed when no key is listed twice. -/

def WellFormed (json : Json) : Prop := Dictionary.WellFormed json.members

@[simp] theorem member?_object (members : List (Text × Json)) (key : Text) :
    (object members).member? key = Dictionary.get? key members := rfl

theorem hasMember_iff (json : Json) (key : Text) :
    json.hasMember key = true ↔ key ∈ json.keys := by
  simp [hasMember, keys, member?, Dictionary.get?_isSome_iff]

theorem member?_set_self (members : List (Text × Json)) (key : Text) (value : Json) :
    ((object members).set key value).member? key = some value := by
  simp [set]

theorem member?_set_of_ne {key other : Text} (different : other ≠ key) (json value : Json) :
    (json.set key value).member? other = json.member? other := by
  cases json with
  | null => simp [set, member?, members, Dictionary.get?, Ne.symm different]
  | _ => simp [set, member?, members, different]

end Json

end CollectionSchema
