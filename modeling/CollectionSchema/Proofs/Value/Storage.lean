import CollectionSchema.Proofs.Value.Representation

/-! # Values that rows hold

Which values come back from their row form, told from the values alone. A row
has signed integers of 64 bits, and its null stands for the empty optional.
-/

namespace CollectionSchema

namespace ValueType

/-! ## Values without a row form of their own -/

/-- The row form of the value is null. -/
def Blank : (type : ValueType) → type.Value → Prop
  | json, value => value = .null
  | optional _, none => True
  | optional inner, some value => Blank inner value
  | _, _ => False

/-- No optional holds a value that is written as the empty optional is. -/
def Filled : (type : ValueType) → type.Value → Prop
  | optional inner, some value => ¬ Blank inner value ∧ Filled inner value
  | _, _ => True

/-- No integer is too large for a signed one of 64 bits. Those inside a value that is held
as it is stay what they are, so they are not looked at. -/
def Fits : (type : ValueType) → type.Value → Prop
  | integer _, value => value.number ≤ 0x7fffffffffffffff
  | optional inner, some value => Fits inner value
  | _, _ => True

theorem encode_eq_null_iff {type : ValueType} {value : type.Value} :
    type.encode value = .null ↔ type.Blank value := by
  induction type with
  | json => exact Iff.rfl
  | vectorOrText precision first => cases value <;> simp [encode, Blank]
  | optional inner induction =>
      cases value with
      | none => simp [encode, Blank]
      | some held => exact induction
  | _ => simp [encode, Blank]

/-! ## Values on their way back -/

theorem representable_integer {kind : IntegerKind} {value : kind.Value}
    (fits : (integer kind).Fits value) : (integer kind).Representable value := by
  have least : -0x8000000000000000 ≤ kind.least := by
    rcases kind with ⟨signed, width⟩
    cases signed <;> cases width <;> decide
  have bound : value.number ≤ 0x7fffffffffffffff := fits
  have least_le := value.least_le
  rw [representable_integer_iff]
  exact Int64.toInt_ofInt_of_le (by omega) (by omega)

theorem representable_iff_filled {type : ValueType} {value : type.Value}
    (fits : type.Fits value) : type.Representable value ↔ type.Filled value := by
  induction type with
  | integer kind => exact iff_of_true (representable_integer fits) trivial
  | real precision => exact iff_of_true (representable_real precision value) trivial
  | vector precision => exact iff_of_true (representable_vector precision value) trivial
  | vectorOrText precision first =>
      exact iff_of_true (representable_vectorOrText precision first value) trivial
  | optional inner induction =>
      cases value with
      | none => exact iff_of_true rfl trivial
      | some held =>
          rw [representable_some_iff, induction fits, Ne, encode_eq_null_iff]
          exact Iff.rfl
  | _ => exact iff_of_true rfl trivial

/-- A value whose integers fit comes back from its row form exactly if no optional
in it holds a blank value, and then into any variable. An optional that holds a
blank value comes back empty. -/
theorem read_back_iff_filled {type : ValueType} {value : type.Value} (fits : type.Fits value) :
    (type.decode (type.encode value) = some value ↔ type.Filled value) ∧
      (type.Filled value → ∀ held, type.decodeInto held (type.encode value) = value) ∧
      (type.Blank value →
        (optional type).decode ((optional type).encode (some value)) = some none) := by
  have readBack := representable_iff_filled fits
  refine ⟨readBack, ?_, ?_⟩
  · intro filled held
    rw [decodeInto, readBack.mpr filled]
    rfl
  · intro blank
    have null : (optional type).encode (some value) = .null := encode_eq_null_iff.mpr blank
    rw [null]
    rfl

/-- The largest unsigned integer that fits, in two optionals. -/
theorem read_back_greatest_signed :
    let type := optional (optional (integer ⟨false, .w64⟩))
    let value : type.Value := some (some ⟨0x7fffffffffffffff, by decide, by decide⟩)
    type.Fits value ∧ type.decode (type.encode value) = some value := by
  intro type value
  have fits : type.Fits value := Int.le_refl _
  have filled : type.Filled value := ⟨fun blank => blank, fun blank => blank, trivial⟩
  exact ⟨fits, (read_back_iff_filled fits).1.mpr filled⟩

/-- The least unsigned integer that wraps is not read, and a null in an optional is lost. -/
theorem wrapped_or_blank_not_read_back :
    let wrapped : IntegerKind.Value ⟨false, .w64⟩ := ⟨0x8000000000000000, by decide, by decide⟩
    (integer ⟨false, .w64⟩).decode ((integer ⟨false, .w64⟩).encode wrapped) = none ∧
      (optional json).decode ((optional json).encode (some .null)) ≠ some (some .null) := by
  intro wrapped
  constructor
  · rfl
  · intro same
    cases same

end ValueType

end CollectionSchema
