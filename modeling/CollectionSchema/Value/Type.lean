import CollectionSchema.Field.Type
import CollectionSchema.Json

/-! # Value types

The types that a marked record member may have, and their values.
-/

namespace CollectionSchema

/-! ## Integers of a fixed width -/

/-- How many integers a word of the width tells apart. -/
def IntegerWidth.count : IntegerWidth → Int
  | w8 => 0x100
  | w16 => 0x10000
  | w32 => 0x100000000
  | w64 => 0x10000000000000000

structure IntegerKind where
  signed : Bool
  width : IntegerWidth
deriving DecidableEq

namespace IntegerKind

def least (kind : IntegerKind) : Int :=
  if kind.signed then -(kind.width.count / 2) else 0

def greatest (kind : IntegerKind) : Int :=
  (if kind.signed then kind.width.count / 2 else kind.width.count) - 1

/-- The integers of a kind. -/
structure Value (kind : IntegerKind) where
  number : Int
  least_le : kind.least ≤ number
  le_greatest : number ≤ kind.greatest
deriving DecidableEq

def zero (kind : IntegerKind) : kind.Value where
  number := 0
  least_le := by
    rcases kind with ⟨signed, width⟩
    cases signed <;> cases width <;> decide
  le_greatest := by
    rcases kind with ⟨signed, width⟩
    cases signed <;> cases width <;> decide

def Value.ofInt? (kind : IntegerKind) (number : Int) : Option kind.Value :=
  if bounds : kind.least ≤ number ∧ number ≤ kind.greatest then
    some ⟨number, bounds.1, bounds.2⟩
  else none

@[simp] theorem Value.ofInt?_number {kind : IntegerKind} (value : kind.Value) :
    ofInt? kind value.number = some value := by
  simp [ofInt?, value.least_le, value.le_greatest]

theorem Value.ofInt?_eq_some_iff {kind : IntegerKind} {number : Int} {value : kind.Value} :
    ofInt? kind number = some value ↔ number = value.number := by
  constructor
  · intro found
    simp only [ofInt?] at found
    split at found
    · exact (Option.some.inj found) ▸ rfl
    · exact absurd found (by simp)
  · intro equal
    subst equal
    exact ofInt?_number value

end IntegerKind

/-! ## Real numbers of a precision -/

namespace Precision

@[reducible] def Element : Precision → Type
  | single => Single
  | double => Double

def widen : (precision : Precision) → precision.Element → Double
  | single, number => number.widen
  | double, number => number

def narrow : (precision : Precision) → Double → precision.Element
  | single, number => number.narrow
  | double, number => number

end Precision

/-- An embedding, or the source text that it will be computed from. -/
inductive VectorOrText (precision : Precision)
  | vector (elements : List precision.Element)
  | text (source : Text)

/-- Which of the two a type names first; a value that nothing has set is an empty one of it. -/
inductive FirstNamed
  | vector
  | text
deriving DecidableEq

def FirstNamed.empty {precision : Precision} : FirstNamed → VectorOrText precision
  | vector => .vector []
  | text => .text .empty

/-! ## Types -/

inductive ValueType
  | string
  | bool
  | integer (kind : IntegerKind)
  | real (precision : Precision)
  | json
  | vector (precision : Precision)
  | vectorOrText (precision : Precision) (first : FirstNamed := .vector)
  | optional (inner : ValueType)
deriving DecidableEq

namespace ValueType

@[reducible] def Value : ValueType → Type
  | string => Text
  | bool => Bool
  | integer kind => kind.Value
  | real precision => precision.Element
  | json => Json
  | vector precision => List precision.Element
  | vectorOrText precision _ => VectorOrText precision
  | optional inner => Option inner.Value

/-- The value of a member that nothing has set. -/
def zero : (type : ValueType) → type.Value
  | string => .empty
  | bool => false
  | integer kind => kind.zero
  | real .single => ⟨0⟩
  | real .double => ⟨0⟩
  | json => .null
  | vector _ => []
  | vectorOrText _ first => first.empty
  | optional _ => none

/-- The field type that a member of this type declares. -/
def fieldType : ValueType → FieldType
  | string => .string
  | bool => .bool
  | integer kind => .integer kind.width
  | real precision => .real precision
  | json => .json
  | vector precision => .vector precision
  | vectorOrText precision _ => (FieldType.vector precision).withSourceText
  | optional inner => inner.fieldType

end ValueType

end CollectionSchema
