import CollectionSchema.Proofs.Field.Extraction
import CollectionSchema.Proofs.Text.Numeral

/-! # Dimensions of marked members

The dimensions of a vector field are given as text. It is read up to its first NUL byte,
and what is read must be a positive decimal integer of 64 bits.
-/

namespace CollectionSchema

/-! ## Texts of dimensions -/

/-- The whole text is a decimal integer, and the dimensions are its value. -/
structure Text.GivesDimensions (text : Text) (dimensions : UInt64) : Prop where
  denotes : text.Denotes dimensions.toNat
  positive : 1 ≤ dimensions.toNat
  bounded : dimensions.toNat ≤ 0x7FFFFFFFFFFFFFFF

theorem toInt_eq_toNat {count : Int64} (positive : 0 < count.toInt) :
    count.toInt = count.toUInt64.toNat := by
  have range := toNat_toUInt64_le positive
  have signed := toInt_toInt64 range.2
  rwa [Int64.toInt64_toUInt64] at signed

theorem Text.givesDimensions_iff {text : Text} {dimensions : UInt64} :
    text.untilNul.GivesDimensions dimensions ↔
      ∃ count, text.integer? = some count ∧ 0 < count.toInt ∧ dimensions = count.toUInt64 := by
  simp only [Text.integer?_eq_some_iff]
  constructor
  · intro gives
    have signed := toInt_toInt64 gives.bounded
    refine ⟨dimensions.toInt64, ?_, ?_, (UInt64.toUInt64_toInt64 dimensions).symm⟩
    · rw [signed]
      exact gives.denotes
    · exact positive_toInt64_iff.mpr ⟨gives.positive, gives.bounded⟩
  · intro read
    rcases read with ⟨count, denotes, positive, rfl⟩
    have range := toNat_toUInt64_le positive
    rw [toInt_eq_toNat positive] at denotes
    exact ⟨denotes, range.1, range.2⟩

/-! ## Markings of vector fields -/

theorem Attribute.tells_dimensions_iff {text : Text} :
    (∃ told, Tells .vector "dimensions" text told) ↔
      ∃ dimensions, text.untilNul.GivesDimensions dimensions := by
  simp only [Text.givesDimensions_iff]
  constructor
  · intro parts
    rcases parts with ⟨told, tells⟩
    rcases tells.exists_count with ⟨count, parsed, positive⟩
    exact ⟨_, count, parsed, positive, rfl⟩
  · intro parts
    rcases parts with ⟨_, count, parsed, positive, _⟩
    exact ⟨_, .dimensions rfl parsed positive⟩

theorem Marking.Documented.role_eq {marking : Marking} {role other : Role}
    (documented : marking.Documented role) (named : marking.role.lower = other.name) :
    role = other :=
  Option.some.inj ((Role.parse?_eq_some_iff.mpr documented.token).symm.trans
    (Role.parse?_eq_some_iff.mpr named))

namespace FieldDescriptor

variable {descriptor : FieldDescriptor} {marking : Marking} {text : Text}

theorem givesDimensions_of_field (marked : descriptor.marking? = some marking)
    (given : marking.metadata.get? "dimensions" = some text) {field : Field}
    (made : descriptor.field = .ok field) : text.untilNul.GivesDimensions field.dimensions := by
  rcases field_eq_ok_iff.mp made with ⟨_, role, same, documented, rfl⟩
  cases marked.symm.trans same
  rcases documented.exists_count given with ⟨count, parsed, positive⟩
  refine Text.givesDimensions_iff.mpr ⟨count, parsed, positive, ?_⟩
  simp [markedField, given, parsed]

/-- The text decides, once the other entries are those of a vector field. -/
theorem exists_field_iff (marked : descriptor.marking? = some marking)
    (onVector : marking.role.lower = Role.vector.name)
    (given : marking.metadata.get? "dimensions" = some text) :
    (∃ field, descriptor.field = .ok field) ↔
      (∃ dimensions, text.untilNul.GivesDimensions dimensions) ∧
        ∀ entry ∈ marking.metadata.entries, entry.1 ≠ "dimensions" →
          ∃ told, Attribute.Tells .vector entry.1 entry.2 told := by
  constructor
  · intro succeeded
    rcases succeeded with ⟨field, made⟩
    have gives := givesDimensions_of_field marked given made
    rcases field_eq_ok_iff.mp made with ⟨_, role, same, documented, rfl⟩
    cases marked.symm.trans same
    cases documented.role_eq onVector
    exact ⟨⟨_, gives⟩, fun entry listed _ => documented.entries entry listed⟩
  · intro parts
    rcases parts with ⟨gives, others⟩
    have entries : ∀ entry ∈ marking.metadata.entries,
        ∃ told, Attribute.Tells .vector entry.1 entry.2 told := by
      rintro ⟨key, value⟩ listed
      by_cases dimensions : key = "dimensions"
      · subst dimensions
        have found := (Dictionary.get?_eq_some_iff_mem marking.metadata.wellFormed).mpr listed
        cases given.symm.trans found
        exact Attribute.tells_dimensions_iff.mpr gives
      · exact others _ listed dimensions
    exact ⟨_, field_eq_ok_iff.mpr ⟨marking, .vector, marked, ⟨onVector, entries⟩, rfl⟩⟩

/-- A vector field is made of a marked member only if the text of its dimensions is, up to
its first NUL byte, a decimal integer between 1 and the greatest signed one, and these are
its dimensions then. Any other text is refused, whatever else the marking says. A text
without a NUL byte is looked at as a whole. -/
theorem dimensions_denoted (held : Field) (marked : descriptor.marking? = some marking)
    (onVector : marking.role.lower = Role.vector.name)
    (given : marking.metadata.get? "dimensions" = some text) :
    ((∃ field, descriptor.field = .ok field) ↔
      (∃ dimensions, text.untilNul.GivesDimensions dimensions) ∧
        ∀ entry ∈ marking.metadata.entries, entry.1 ≠ "dimensions" →
          ∃ told, Attribute.Tells .vector entry.1 entry.2 told) ∧
    (∀ field, descriptor.field = .ok field → text.untilNul.GivesDimensions field.dimensions) ∧
    (∀ error, descriptor.field = .error error →
      error.status.kind? = some .schema ∧ assign held descriptor.field = held) ∧
    (Ascii.nul ∉ text.bytes →
      (∀ field, descriptor.field = .ok field → text.GivesDimensions field.dimensions) ∧
      ((¬ ∃ dimensions, text.GivesDimensions dimensions) →
        ∃ error, descriptor.field = .error error ∧ error.status.kind? = some .schema ∧
          assign held descriptor.field = held)) := by
  have made := exists_field_iff marked onVector given
  have gives : ∀ field, descriptor.field = .ok field →
      text.untilNul.GivesDimensions field.dimensions :=
    fun _ => givesDimensions_of_field marked given
  refine ⟨made, gives, ?_, ?_⟩
  · intro error failed
    exact ⟨Status.kind?_failure _ _, by rw [failed]; rfl⟩
  · intro whole
    rw [Text.untilNul_eq_self whole] at gives
    refine ⟨gives, ?_⟩
    intro other
    cases outcome : descriptor.field with
    | ok field => exact absurd ⟨_, gives field outcome⟩ other
    | error error => exact ⟨error, rfl, Status.kind?_failure _ _, rfl⟩

/-! Leading zeros count for nothing, and a NUL byte hides what follows it. -/

def embedding (dimensions : Text) : FieldDescriptor where
  name := "embedding"
  declaredType := .vector .single
  marking? := some ⟨"vector", .ofList [("dimensions", dimensions), ("indexKind", "hnsw")]⟩

theorem dimensions_denoted_padded : ∃ field, (embedding "0512").field = .ok field ∧
    field.dimensions = 512 ∧ Text.GivesDimensions "0512" field.dimensions := by
  rcases (⟨_, rfl⟩ : ∃ field, (embedding "0512").field = .ok field) with ⟨field, made⟩
  have denoted := dimensions_denoted {} (rfl : (embedding "0512").marking? = _) (by decide) rfl
  refine ⟨field, made, ?_, (denoted.2.2.2 (by decide)).1 field made⟩
  cases made
  rfl

def cut : Text := ⟨[52, Ascii.nul, 122]⟩

theorem dimensions_cut_at_nul : ∃ field, (embedding cut).field = .ok field ∧
    field.dimensions = 4 ∧ ¬ ∃ dimensions, cut.GivesDimensions dimensions := by
  refine ⟨_, rfl, rfl, ?_⟩
  rintro ⟨dimensions, denotes, _⟩
  rcases (Text.denotes_cons_iff (by decide)).mp denotes with ⟨digits, _⟩
  exact absurd (digits.2 Ascii.nul (by decide)) (by decide)

end FieldDescriptor

end CollectionSchema
