import CollectionSchema.Proofs.Collection.Documents
import Mathlib.Logic.Relation

/-! # Definitions of record types

A definition is extracted from the marked members of a record type. What stands between
them is of no account, the first marked member that gives no field ends the extraction,
and the invariants of the whole are looked at only when every marked member gives one.
-/

namespace CollectionSchema

variable {Payload : Type}

namespace FieldDescriptor

/-! ## Marked members -/

def marked (descriptors : List FieldDescriptor) : List FieldDescriptor :=
  descriptors.filter (·.marking?.isSome)

/-- A member without a marking comes in, goes, or gives way to another one. -/
inductive UnmarkedEdit : List FieldDescriptor → List FieldDescriptor → Prop
  | insert (front back : List FieldDescriptor) {member : FieldDescriptor}
      (unmarked : member.marking? = none) :
      UnmarkedEdit (front ++ back) (front ++ member :: back)
  | remove (front back : List FieldDescriptor) {member : FieldDescriptor}
      (unmarked : member.marking? = none) :
      UnmarkedEdit (front ++ member :: back) (front ++ back)
  | replace (front back : List FieldDescriptor) {member other : FieldDescriptor}
      (unmarked : member.marking? = none) (otherUnmarked : other.marking? = none) :
      UnmarkedEdit (front ++ member :: back) (front ++ other :: back)

section

variable {descriptors others : List FieldDescriptor} {all : List Field} {error : MarkingError}

theorem UnmarkedEdit.marked_eq (edit : UnmarkedEdit descriptors others) :
    marked others = marked descriptors := by
  cases edit with
  | insert front back unmarked => simp [marked, unmarked]
  | remove front back unmarked => simp [marked, unmarked]
  | replace front back unmarked otherUnmarked => simp [marked, unmarked, otherUnmarked]

theorem marked_eq_of_edits (edits : Relation.ReflTransGen UnmarkedEdit descriptors others) :
    marked others = marked descriptors := by
  induction edits with
  | refl => rfl
  | tail _ edit induction => exact edit.marked_eq.trans induction

/-! ## Fields of marked members -/

/-- The first marked member that gives no field, and why it gives none. -/
inductive FirstRejected : List FieldDescriptor → MarkingError → Prop
  | intro {front back : List FieldDescriptor} {member : FieldDescriptor} {error : MarkingError}
      (before : ∀ earlier ∈ front, earlier.marking?.isSome = true →
        ∃ field, earlier.field = .ok field)
      (marked : member.marking?.isSome = true) (rejected : member.field = .error error) :
      FirstRejected (front ++ member :: back) error

theorem fields_eq_error_iff :
    fields descriptors = .error error ↔ FirstRejected descriptors error := by
  rw [fields, mapM_eq_error_iff]
  constructor
  · intro failed
    rcases failed with ⟨front, member, back, split, before, rejected⟩
    rcases List.filter_eq_append_iff.mp split with ⟨start, rest, rfl, rfl, rest_eq⟩
    rcases List.filter_eq_cons_iff.mp rest_eq with ⟨skipped, later, rfl, unmarked, marked, _⟩
    rw [← List.append_assoc]
    refine .intro ?_ marked rejected
    intro earlier listed isMarked
    rcases List.mem_append.mp listed with listed | listed
    · exact before earlier (List.mem_filter.mpr ⟨listed, isMarked⟩)
    · exact absurd isMarked (unmarked earlier listed)
  · intro first
    rcases first with @⟨front, back, member, _, before, isMarked, rejected⟩
    have kept : (front ++ member :: back).filter (·.marking?.isSome) =
        front.filter (·.marking?.isSome) ++ member :: back.filter (·.marking?.isSome) := by
      simp [isMarked]
    refine ⟨_, member, _, kept, ?_, rejected⟩
    intro earlier listed
    rcases List.mem_filter.mp listed with ⟨listed, earlierMarked⟩
    exact before earlier listed earlierMarked

theorem exists_fields_iff : (∃ all, fields descriptors = .ok all) ↔
    ∀ member ∈ descriptors, member.marking?.isSome = true → ∃ field, member.field = .ok field := by
  rw [fields, exists_mapM_eq_ok_iff]
  simp only [List.mem_filter, and_imp]

theorem exists_firstRejected_iff : (∃ error, FirstRejected descriptors error) ↔
    ∃ member ∈ descriptors, member.marking?.isSome = true ∧
      ∃ error, member.field = .error error := by
  constructor
  · intro rejected
    rcases rejected with ⟨error, ⟨_, marked, failed⟩⟩
    exact ⟨_, List.mem_append_right _ List.mem_cons_self, marked, error, failed⟩
  · intro rejected
    rcases rejected with ⟨member, listed, isMarked, error, failed⟩
    cases made : fields descriptors with
    | error cause => exact ⟨cause, fields_eq_error_iff.mp made⟩
    | ok all =>
        rcases exists_fields_iff.mp ⟨all, made⟩ member listed isMarked with ⟨field, succeeded⟩
        cases failed.symm.trans succeeded

/-- A field is named by the metadata of its member, or else like the member. -/
def storageName (descriptor : FieldDescriptor) : Text :=
  (descriptor.marking?.bind (·.metadata.get? "name")).getD descriptor.name

theorem resolvedName_of_field {descriptor : FieldDescriptor} {field : Field}
    (made : descriptor.field = .ok field) : field.resolvedName = descriptor.storageName := by
  rcases field_eq_ok_iff.mp made with ⟨marking, role, isMarked, documented, rfl⟩
  cases found : marking.metadata.get? "name" with
  | none => simp [Field.resolvedName, markedField, storageName, isMarked, found]
  | some name =>
      have named : name ≠ .empty := documented.name_ne_empty found
      simp [Field.resolvedName, markedField, storageName, isMarked, found, named]

end

end FieldDescriptor

/-! ## Extraction -/

section

variable {options : ValidationOptions} {typeName : Text} {descriptors : List FieldDescriptor}

theorem extract_eq_of_marked_eq {others : List FieldDescriptor}
    (same : FieldDescriptor.marked others = FieldDescriptor.marked descriptors) :
    (extract options typeName others : Except DefinitionError (CollectionDefinition Payload)) =
      extract options typeName descriptors := by
  have fields : FieldDescriptor.fields others = FieldDescriptor.fields descriptors :=
    congrArg (List.mapM FieldDescriptor.field) same
  rw [extract, fields, extract]

theorem extract_of_fields {fields : List Field}
    (made : FieldDescriptor.fields descriptors = .ok fields) :
    (extract options typeName descriptors :
        Except DefinitionError (CollectionDefinition Payload)) =
      ({ name := typeName, fields, options } : Draft Payload).define := by
  rw [extract, made]
  rfl

/-- What a draft lacks is no fault of a marking. -/
theorem define_ne_marking (draft : Draft Payload) (error : MarkingError) :
    draft.define ≠ .error (.marking error) :=
  mapError_ne_error (fun _ same => by cases same) draft.build

theorem extract_eq_marking_iff {error : MarkingError} :
    (extract options typeName descriptors :
        Except DefinitionError (CollectionDefinition Payload)) = .error (.marking error) ↔
      FieldDescriptor.FirstRejected descriptors error := by
  rw [← FieldDescriptor.fields_eq_error_iff]
  cases made : FieldDescriptor.fields descriptors with
  | ok fields => simp [extract_of_fields made, define_ne_marking]
  | error cause =>
      rw [extract, made]
      constructor
      · intro same
        cases same
        rfl
      · intro same
        cases same
        rfl

section

variable {definition : CollectionDefinition Payload}
  (extracted : extract options typeName descriptors = .ok definition)

include extracted

/-- Storage names are written out after the extraction of the fields. -/
theorem fields_of_extract :
    List.Forall₂ (fun member field => ∃ made, member.field = .ok made ∧ field = made.resolve)
      (FieldDescriptor.marked descriptors) definition.fields := by
  rcases CollectionDefinition.extract_eq_ok_iff.mp extracted with ⟨fields, read, yields⟩
  rw [yields.fields, List.forall₂_map_right_iff]
  exact (mapM_eq_ok_iff_forall₂.mp read).imp fun _ _ made => ⟨_, made, rfl⟩

theorem propertyNames_of_extract : definition.propertyNames =
    ((FieldDescriptor.marked descriptors).map (·.name)).filter (!·.isEmpty) := by
  rcases CollectionDefinition.extract_eq_ok_iff.mp extracted with ⟨fields, read, yields⟩
  have properties : definition.fields.map (·.property) = fields.map (·.property) := by
    rw [yields.fields, List.map_map]
    rfl
  rw [CollectionDefinition.propertyNames, properties, FieldDescriptor.properties_of_fields read]
  rfl

theorem storageNames_of_extract : definition.storageNames true =
    (FieldDescriptor.marked descriptors).map FieldDescriptor.storageName := by
  rcases CollectionDefinition.extract_eq_ok_iff.mp extracted with ⟨fields, read, yields⟩
  have resolved : definition.fields.map (·.storage) = fields.map Field.resolvedName := by
    rw [yields.fields, List.map_map]
    rfl
  rw [CollectionDefinition.storageNames_true, resolved]
  exact map_eq_map_of_mapM (fun _ _ => FieldDescriptor.resolvedName_of_field) read

end

/-- Members without a marking have no part in an extraction. It ends with the fault of the
first marked member that gives no field, whatever the others lack together. If there is no
such member, then what is built of the fields decides, and a definition has them in the
order of the marked members. -/
theorem extract_by_members (options : ValidationOptions) (typeName : Text)
    (descriptors : List FieldDescriptor) (held : Option (CollectionDefinition Payload))
    (heldFields : List Field) :
    let extracted : Except DefinitionError (CollectionDefinition Payload) :=
      extract options typeName descriptors
    (∀ others, Relation.ReflTransGen FieldDescriptor.UnmarkedEdit descriptors others →
      extract options typeName others = extracted) ∧
    (∀ error, FieldDescriptor.FirstRejected descriptors error ↔
      extracted = .error (.marking error)) ∧
    ((∃ member ∈ descriptors, member.marking?.isSome = true ∧
        ∃ error, member.field = .error error) →
      ∃ error, FieldDescriptor.FirstRejected descriptors error ∧
        extracted.mapError DefinitionError.status = .error error.status ∧
        error.status.kind? = some .schema) ∧
    ((∀ member ∈ descriptors, member.marking?.isSome = true →
        ∃ field, member.field = .ok field) →
      ∃ fields, FieldDescriptor.fields descriptors = .ok fields ∧
        List.Forall₂ (fun member field => member.field = .ok field)
          (FieldDescriptor.marked descriptors) fields ∧
        extracted = ({ name := typeName, fields, options } : Draft Payload).build.mapError
          (.invalid typeName)) ∧
    (∀ definition, extracted = .ok definition →
      List.Forall₂ (fun member field => ∃ made, member.field = .ok made ∧ field = made.resolve)
        (FieldDescriptor.marked descriptors) definition.fields ∧
      definition.propertyNames =
        ((FieldDescriptor.marked descriptors).map (·.name)).filter (!·.isEmpty) ∧
      definition.storageNames true =
        (FieldDescriptor.marked descriptors).map FieldDescriptor.storageName) ∧
    (∀ error, extracted = .error error → assign held (extracted.map some) = held) ∧
    ∀ error, FieldDescriptor.fields descriptors = .error error →
      assign heldFields (FieldDescriptor.fields descriptors) = heldFields := by
  intro extracted
  refine ⟨?_, ?_, ?_, ?_, ?_, ?_, ?_⟩
  · intro others edits
    exact extract_eq_of_marked_eq (FieldDescriptor.marked_eq_of_edits edits)
  · intro error
    exact extract_eq_marking_iff.symm
  · intro rejected
    rcases FieldDescriptor.exists_firstRejected_iff.mpr rejected with ⟨error, first⟩
    refine ⟨error, first, ?_, Status.kind?_failure _ _⟩
    have ends : extracted = .error (.marking error) := extract_eq_marking_iff.mpr first
    rw [ends]
    rfl
  · intro each
    rcases FieldDescriptor.exists_fields_iff.mpr each with ⟨fields, made⟩
    exact ⟨fields, made, mapM_eq_ok_iff_forall₂.mp made, extract_of_fields made⟩
  · intro definition succeeded
    exact ⟨fields_of_extract succeeded, propertyNames_of_extract succeeded,
      storageNames_of_extract succeeded⟩
  · intro error failed
    rw [failed]
    rfl
  · intro error failed
    rw [failed]
    rfl

/-! A second key is a fault of the whole, and a marking that does not read comes before it. -/

def idMember : FieldDescriptor where
  name := "id"
  declaredType := .string
  marking? := some ⟨"key", .empty⟩

def labelMember (role : Text) : FieldDescriptor where
  name := "label"
  marking? := some ⟨role, .ofList [("name", "tag")]⟩

theorem extract_by_members_labelled :
    (∃ definition : CollectionDefinition Empty,
      extract { requireVector := false } "Item" [idMember, { name := "cache" },
        labelMember "data"] = .ok definition ∧
      definition.propertyNames = ["id", "label"] ∧
      definition.storageNames true = ["id", "tag"]) ∧
    (extract {} "Item" [idMember, idMember, labelMember "index"] :
      Except DefinitionError (CollectionDefinition Empty)) =
        .error (.marking (.rejected "label" (.token (.role "index")))) := by
  constructor
  · rcases (⟨_, rfl⟩ : ∃ definition : CollectionDefinition Empty,
        extract { requireVector := false } "Item" [idMember, labelMember "data"] =
          .ok definition) with ⟨definition, succeeded⟩
    rcases extract_by_members { requireVector := false } "Item" [idMember, labelMember "data"]
      none [] with ⟨edited, _, _, _, named, _⟩
    refine ⟨definition, ?_, (named definition succeeded).2.1, (named definition succeeded).2.2⟩
    rw [← succeeded]
    exact edited _ (.single (.insert [idMember] [labelMember "data"] rfl))
  · have rejected := (@extract_by_members Empty {} "Item"
      [idMember, idMember, labelMember "index"] none []).2.1
    apply (rejected _).mp
    refine @FieldDescriptor.FirstRejected.intro [idMember, idMember] [] _ _ ?_ rfl rfl
    intro earlier listed _
    rcases List.mem_cons.mp listed with rfl | listed
    · exact ⟨_, rfl⟩
    · rcases List.mem_singleton.mp listed with rfl
      exact ⟨_, rfl⟩

end

end CollectionSchema
