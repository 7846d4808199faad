import CollectionSchema.Proofs.Collection.Documents
import CollectionSchema.Proofs.Field.Format
import Mathlib.Data.List.Forall2

/-! # The format of definition documents

Loading looks at the whole document before it looks at any invariant. A document that
does not have the format is refused as such, and any other one is built as it is read,
unless it gives dimensions that are too large for a signed integer. These are refused as
if they were not positive.
-/

namespace CollectionSchema

variable {Payload : Type}

/-! ## Lists of documents -/

theorem Field.map_ofJson_eq_iff {elements : List Json} {fields : List Field} :
    elements.map ofJson = fields.map .ok ↔ List.Forall₂ Describes elements fields := by
  rw [← List.forall₂_eq_eq_eq, List.forall₂_map_left_iff, List.forall₂_map_right_iff]
  simp only [ofJson_eq_ok_iff]

theorem Field.mapM_ofJson_congr {lefts rights : List Json}
    (same : List.Forall₂ (Json.SameMembers memberNames) lefts rights) :
    lefts.mapM ofJson = rights.mapM ofJson := by
  induction same with
  | nil => rfl
  | cons first _ induction => rw [List.mapM_cons, List.mapM_cons, ofJson_congr first, induction]

namespace Draft

/-! ## Well-formed documents -/

/-- The document is one of a definition, whether or not its fields keep the invariants. -/
structure HasFormat (json : Json) : Prop where
  object : json.isObject = true
  name : json.HoldsOnly Json.isString ["name"]
  containerMode : json.HoldsOnly Json.isBool ["containerMode"]
  fields : ∃ elements, json.member? "fields" = some (.array elements) ∧
    ∀ element ∈ elements, ∃ role, Field.HasFormat element role

/-- Some field of the document has dimensions that wrap where they are read. -/
def Overlarge (json : Json) : Prop :=
  ∃ elements, json.member? "fields" = some (.array elements) ∧
    ∃ element ∈ elements, ∃ role, Field.HasFormat element role ∧ Field.Overlarge element role

theorem hasFormat_of_describes {options : ValidationOptions} {json : Json}
    {draft : Draft Payload} (describes : Describes options json draft) :
    HasFormat json ∧ ¬ Overlarge json := by
  rcases describes.fields with ⟨elements, listed, reads⟩
  have each := exists_forall₂_iff.mp ⟨_, Field.map_ofJson_eq_iff.mp reads⟩
  simp only [Field.exists_describes_iff] at each
  constructor
  · exact {
      object := by
        cases json with
        | object members => rfl
        | _ => cases listed
      name := List.forall_mem_singleton.mpr (Json.exists_readsText_iff.mp ⟨_, describes.name⟩)
      containerMode :=
        List.forall_mem_singleton.mpr (Json.exists_readsFlag_iff.mp ⟨_, describes.containerMode⟩)
      fields := ⟨elements, listed, fun element among =>
        (each element among).imp fun _ formatted => formatted.1⟩ }
  · intro overlarge
    rcases overlarge with ⟨others, otherListed, element, among, role, hasFormat, large⟩
    rw [listed] at otherListed
    cases otherListed
    rcases each element among with ⟨other, otherFormat, fits⟩
    exact fits (otherFormat.role_unique hasFormat ▸ large)

theorem exists_describes {json : Json} (hasFormat : HasFormat json) (fits : ¬ Overlarge json)
    (options : ValidationOptions) : ∃ draft : Draft Payload, Describes options json draft := by
  rcases hasFormat with ⟨_, name, containerMode, elements, listed, formatted⟩
  rcases Json.exists_readsText_iff.mpr (List.forall_mem_singleton.mp name) with
    ⟨name, readsName⟩
  rcases Json.exists_readsFlag_iff.mpr (List.forall_mem_singleton.mp containerMode) with
    ⟨containerMode, readsMode⟩
  have each : ∀ element ∈ elements, ∃ field, Field.Describes element field := by
    intro element among
    rcases formatted element among with ⟨role, hasFormat⟩
    have small : ¬ Field.Overlarge element role := fun large =>
      fits ⟨elements, listed, element, among, role, hasFormat, large⟩
    exact Field.exists_describes_iff.mpr ⟨role, hasFormat, small⟩
  rcases exists_forall₂_iff.mpr each with ⟨fields, described⟩
  exact ⟨{ name, fields, containerMode, options }, {
    fields := ⟨elements, listed, Field.map_ofJson_eq_iff.mpr described⟩
    name := readsName
    containerMode := readsMode
    pack := rfl
    unpack := rfl
    options := rfl }⟩

/-! ## Members that are looked at -/

/-- Both documents have the same members of the format, and so have their fields, one by
one. Neither order nor other members count. -/
structure SameDocument (left right : Json) : Prop where
  members : Json.SameMembers ["name", "containerMode"] left right
  listed : (left.member "fields").isArray = (right.member "fields").isArray
  fields : List.Forall₂ (Json.SameMembers Field.memberNames)
    (left.member "fields").elements (right.member "fields").elements

theorem ofJson_congr {left right : Json} (same : SameDocument left right)
    (options : ValidationOptions) :
    (ofJson options left : Except DocumentError (Draft Payload)) = ofJson options right := by
  have members := same.members
  rw [ofJson, same.listed, members.checkString (by decide), members.checkBoolean (by decide),
    members.memberText (by decide), members.memberFlag (by decide),
    Field.mapM_ofJson_congr same.fields]
  rfl

end Draft

namespace CollectionDefinition

open Draft

section

variable {dimensions : Json} {count : Int} (whole : dimensions.integer? = some count)
  (positive : 0 < count)
include whole positive

end

end CollectionDefinition

end CollectionSchema
