import CollectionSchema.Value.Codec

/-! # Representable values

Some values are lost on their way through a row: an unsigned integer that wraps
there, or an optional that holds a value whose row form is null. Everything that
was read from a row can be written to one and read again.
-/

namespace CollectionSchema

@[simp] theorem Precision.narrow_widen (precision : Precision) (number : precision.Element) :
    precision.narrow (precision.widen number) = number := by
  cases precision with
  | single => exact Single.narrow_widen number
  | double => rfl

namespace ValueType

/-- The value is read back from the form that a row holds it in. -/
def Representable (type : ValueType) (value : type.Value) : Prop :=
  type.decode (type.encode value) = some value

/-! ## Real numbers and vectors -/

theorem representable_real (precision : Precision) (number : precision.Element) :
    (real precision).Representable number := by
  simp [Representable, encode, decode, Json.number?]

theorem decodeVector_widened (precision : Precision) (elements : List precision.Element) :
    decodeVector precision
        (.array (elements.map fun element => .double (precision.widen element))) =
      some elements := by
  induction elements with
  | nil => rfl
  | cons element rest induction =>
      simp only [decodeVector] at induction
      rw [List.map_cons, decodeVector, List.mapM_cons, induction]
      simp [Json.number?]

theorem representable_vector (precision : Precision) (elements : List precision.Element) :
    (vector precision).Representable elements :=
  decodeVector_widened precision elements

theorem representable_vectorOrText (precision : Precision) (first : FirstNamed)
    (value : VectorOrText precision) :
    (vectorOrText precision first).Representable value := by
  cases value with
  | text source => rfl
  | vector elements =>
      simp only [Representable, encode, decode]
      rw [decodeVector_widened]
      rfl

/-! ## Integers -/

/-- A large integer is read as the signed one of its bits. -/
theorem decode_large (kind : IntegerKind) (number : LargeInteger) :
    (integer kind).decode (.large number) = (integer kind).decode (.int number.wrapped) := rfl

theorem representable_integer_iff {kind : IntegerKind} {value : kind.Value} :
    (integer kind).Representable value ↔ (Int64.ofInt value.number).toInt = value.number :=
  IntegerKind.Value.ofInt?_eq_some_iff

theorem representable_of_decode_int {kind : IntegerKind} {number : Int64} {value : kind.Value}
    (read : (integer kind).decode (.int number) = some value) :
    (integer kind).Representable value := by
  have found := IntegerKind.Value.ofInt?_eq_some_iff.mp read
  rw [representable_integer_iff, ← found, Int64.ofInt_toInt]

/-! ## Optionals

Null stands for the empty optional, so nothing else may be written as null. What
is read from another form never is. -/

theorem decode_optional {inner : ValueType} {json : Json} (filled : json ≠ .null) :
    (optional inner).decode json = (inner.decode json).map some := by
  cases json with
  | null => exact absurd rfl filled
  | _ => rfl

theorem representable_some_iff {inner : ValueType} {value : inner.Value} :
    (optional inner).Representable (some value) ↔
      inner.encode value ≠ .null ∧ inner.Representable value := by
  by_cases empty : inner.encode value = .null
  · simp [Representable, encode, decode, empty]
  · have decoded : (optional inner).decode (inner.encode value) =
        (inner.decode (inner.encode value)).map some := decode_optional empty
    simp [Representable, encode, decoded, empty]

theorem encode_ne_null {type : ValueType} {json : Json} {value : type.Value}
    (filled : json ≠ .null) (read : type.decode json = some value) :
    type.encode value ≠ .null := by
  induction type with
  | json =>
      cases read
      exact filled
  | vectorOrText precision first => cases value <;> exact fun null => Json.noConfusion null
  | optional inner induction =>
      rw [decode_optional filled, Option.map_eq_some_iff] at read
      rcases read with ⟨held, read, rfl⟩
      exact induction read
  | _ => exact fun null => Json.noConfusion null

/-! ## Every value that was read -/

/-- A value that was read from a row can be written to one and read again. -/
theorem representable_of_decode {type : ValueType} {json : Json} {value : type.Value}
    (read : type.decode json = some value) : type.Representable value := by
  induction type generalizing json with
  | integer kind =>
      cases json with
      | int number => exact representable_of_decode_int read
      | large number => exact representable_of_decode_int (decode_large kind number ▸ read)
      | _ => cases read
  | real precision => exact representable_real precision value
  | vector precision => exact representable_vector precision value
  | vectorOrText precision first => exact representable_vectorOrText precision first value
  | optional inner induction =>
      by_cases empty : json = .null
      · subst empty
        cases read
        rfl
      · rw [decode_optional empty, Option.map_eq_some_iff] at read
        rcases read with ⟨held, read, rfl⟩
        exact representable_some_iff.mpr ⟨encode_ne_null empty read, induction read⟩
  | string => rfl
  | bool => rfl
  | json => rfl

end ValueType

end CollectionSchema
