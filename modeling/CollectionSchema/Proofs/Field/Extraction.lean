import CollectionSchema.Proofs.Field.Marking
import CollectionSchema.Proofs.Field.RoundTrip

/-! # Fields of marked members

What the markings of a list of members can leave in its fields.
-/

namespace CollectionSchema

theorem Attribute.Tells.exists_count {role : Role} {text : Text} {told : Attribute}
    (tells : Tells role "dimensions" text told) :
    ∃ count, text.integer? = some count ∧ 0 < count.toInt := by
  generalize key : Text.ofString "dimensions" = other at tells
  cases tells with
  | dimensions _ parsed positive => exact ⟨_, parsed, positive⟩
  | _ => simp at key

theorem Attribute.Tells.name_ne_empty {role : Role} {text : Text} {told : Attribute}
    (tells : Tells role "name" text told) : text ≠ .empty := by
  generalize key : Text.ofString "name" = other at tells
  cases tells with
  | storage named => exact named
  | _ => simp at key

namespace Marking.Documented

variable {marking : Marking} {role : Role} {key text : Text}

theorem exists_told (documented : marking.Documented role)
    (given : marking.metadata.get? key = some text) : ∃ told, Attribute.Tells role key text told :=
  documented.entries _ ((Dictionary.get?_eq_some_iff_mem marking.metadata.wellFormed).mp given)

theorem exists_count (documented : marking.Documented role)
    (given : marking.metadata.get? "dimensions" = some text) :
    ∃ count, text.integer? = some count ∧ 0 < count.toInt := by
  rcases documented.exists_told given with ⟨_, tells⟩
  exact tells.exists_count

theorem name_ne_empty (documented : marking.Documented role)
    (given : marking.metadata.get? "name" = some text) : text ≠ .empty := by
  rcases documented.exists_told given with ⟨_, tells⟩
  exact tells.name_ne_empty

end Marking.Documented

namespace FieldDescriptor

variable {descriptor : FieldDescriptor} {field : Field} {descriptors : List FieldDescriptor}
  {all : List Field}

theorem property_of_field (made : descriptor.field = .ok field) :
    field.property = descriptor.name := by
  rcases field_eq_ok_iff.mp made with ⟨_, _, _, _, rfl⟩
  rfl

/-- Dimensions are read as a signed integer, so they never reach the upper half of
their words. -/
theorem dimensions_le_of_field (made : descriptor.field = .ok field) :
    field.dimensions.toNat ≤ 0x7FFFFFFFFFFFFFFF := by
  rcases field_eq_ok_iff.mp made with ⟨marking, role, _, documented, rfl⟩
  simp only [markedField]
  cases found : marking.metadata.get? "dimensions" with
  | none => exact Nat.zero_le _
  | some text =>
      rcases documented.exists_count found with ⟨count, parsed, positive⟩
      simp only [Option.bind_some, parsed, Option.map_some, Option.getD_some]
      exact (toNat_toUInt64_le positive).2

theorem dimensions_le_of_fields (made : fields descriptors = .ok all) (member : field ∈ all) :
    field.dimensions.toNat ≤ 0x7FFFFFFFFFFFFFFF := by
  rcases exists_source_of_mapM made member with ⟨descriptor, _, known⟩
  exact dimensions_le_of_field known

theorem properties_of_fields (made : fields descriptors = .ok all) :
    all.map (·.property) = (descriptors.filter (·.marking?.isSome)).map (·.name) :=
  map_eq_map_of_mapM (fun _ _ => property_of_field) made

end FieldDescriptor

end CollectionSchema
