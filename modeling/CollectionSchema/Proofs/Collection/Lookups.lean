import CollectionSchema.Proofs.Collection.Building

/-! # Lookups and views of a definition

The storage names of a built definition are distinct, and so are its property names, but
one field may be stored under the name of another field's member. A lookup asks the storage
names first. The views list the fields, or their names, in the order of the definition.
-/

namespace CollectionSchema

/-! ## Lists -/

/-- The elements of three lists taken together, those of each list in its order. -/
inductive Interleaved {Element : Type u} :
    List Element → List Element → List Element → List Element → Prop
  | nil : Interleaved [] [] [] []
  | first (rest : Interleaved first second third whole) :
      Interleaved (element :: first) second third (element :: whole)
  | second (rest : Interleaved first second third whole) :
      Interleaved first (element :: second) third (element :: whole)
  | third (rest : Interleaved first second third whole) :
      Interleaved first second (element :: third) (element :: whole)

theorem find?_eq_some_iff_of_unique {Element : Type u} {accepts : Element → Bool}
    {elements : List Element} {element : Element}
    (unique : ∀ one ∈ elements, ∀ other ∈ elements,
      accepts one = true → accepts other = true → one = other) :
    elements.find? accepts = some element ↔ element ∈ elements ∧ accepts element = true := by
  constructor
  · intro found
    exact ⟨List.mem_of_find?_eq_some found, List.find?_some found⟩
  · intro parts
    rcases parts with ⟨listed, accepted⟩
    have present : (elements.find? accepts).isSome = true :=
      List.find?_isSome.mpr ⟨element, listed, accepted⟩
    rcases Option.isSome_iff_exists.mp present with ⟨other, found⟩
    rw [found, unique element listed other (List.mem_of_find?_eq_some found) accepted
      (List.find?_some found)]

/-- Every field has one of the three roles. -/
theorem interleaved_by_role (fields : List Field) :
    Interleaved (fields.filter Field.isKey) (fields.filter Field.isData)
      (fields.filter Field.isVector) fields := by
  induction fields with
  | nil => exact .nil
  | cons field rest induction =>
      cases role : field.role with
      | key => simpa [Field.isKey, Field.isData, Field.isVector, role] using induction.first
      | data => simpa [Field.isKey, Field.isData, Field.isVector, role] using induction.second
      | vector => simpa [Field.isKey, Field.isData, Field.isVector, role] using induction.third

namespace CollectionDefinition

variable {Payload : Type} {definition : CollectionDefinition Payload} {field : Field}
  {name : Text}

/-! ## Names -/

/-- No two fields share a storage name, or the member that they are bound to. -/
structure WellNamed (definition : CollectionDefinition Payload) : Prop where
  storageNames : (definition.storageNames true).Nodup
  propertyNames : definition.propertyNames.Nodup

theorem wellNamed_of_yields {draft : Draft Payload} (yields : draft.Yields definition) :
    definition.WellNamed where
  storageNames := by
    rw [storageNames_true, yields.fields, List.map_map]
    exact yields.valid.distinctNames
  propertyNames := by
    rw [CollectionDefinition.propertyNames, yields.fields, List.map_map]
    exact yields.valid.distinctProperties

theorem WellNamed.eq_of_storage (wellNamed : definition.WellNamed) {other : Field}
    (listed : field ∈ definition.fields) (otherListed : other ∈ definition.fields)
    (same : field.storage = other.storage) : field = other := by
  have distinct := wellNamed.storageNames
  rw [storageNames_true] at distinct
  exact List.inj_on_of_nodup_map distinct listed otherListed same

theorem WellNamed.eq_of_property (wellNamed : definition.WellNamed) {other : Field}
    (listed : field ∈ definition.fields) (otherListed : other ∈ definition.fields)
    (bound : field.property ≠ .empty) (same : field.property = other.property) :
    field = other := by
  have distinct := wellNamed.propertyNames
  rw [CollectionDefinition.propertyNames, List.filter_map] at distinct
  apply List.inj_on_of_nodup_map distinct _ _ same
  · exact List.mem_filter.mpr ⟨listed, by simpa using bound⟩
  · exact List.mem_filter.mpr ⟨otherListed, by simpa [← same] using bound⟩

/-! ## Lookups -/

/-- The name is the field's in the store, or it is no field's there and is that of the
member that the field is bound to. -/
inductive Names (definition : CollectionDefinition Payload) (name : Text) (field : Field) : Prop
  | stored (listed : field ∈ definition.fields) (same : field.storage = name)
  | bound (unstored : name ∉ definition.storageNames true) (listed : field ∈ definition.fields)
      (nonempty : name ≠ .empty) (same : field.property = name)

theorem mem_storageNames_iff :
    name ∈ definition.storageNames true ↔ ∃ field ∈ definition.fields, field.storage = name := by
  rw [storageNames_true, List.mem_map]

theorem WellNamed.field?_eq_some_iff (wellNamed : definition.WellNamed) :
    definition.field? name = some field ↔ definition.Names name field := by
  have stored : definition.fields.find? (·.storage = name) = some field ↔
      field ∈ definition.fields ∧ field.storage = name := by
    rw [find?_eq_some_iff_of_unique, decide_eq_true_eq]
    intro one listed other otherListed first second
    exact wellNamed.eq_of_storage listed otherListed
      ((of_decide_eq_true first).trans (of_decide_eq_true second).symm)
  have unstored : definition.fields.find? (·.storage = name) = none ↔
      name ∉ definition.storageNames true := by
    simp [mem_storageNames_iff]
  have bound : (definition.fields.find? fun field =>
      !field.property.isEmpty && field.property = name) = some field ↔
      field ∈ definition.fields ∧ name ≠ .empty ∧ field.property = name := by
    rw [find?_eq_some_iff_of_unique]
    · simp only [Bool.and_eq_true, Bool.not_eq_true', Text.isEmpty_eq_false_iff,
        decide_eq_true_eq]
      exact and_congr_right fun _ => and_congr_left fun same => same ▸ Iff.rfl
    · intro one listed other otherListed first second
      simp only [Bool.and_eq_true, Bool.not_eq_true', Text.isEmpty_eq_false_iff,
        decide_eq_true_eq] at first second
      exact wellNamed.eq_of_property listed otherListed first.1 (first.2.trans second.2.symm)
  rw [field?, Option.or_eq_some_iff, stored, unstored, bound]
  constructor
  · intro found
    rcases found with ⟨listed, same⟩ | ⟨absent, listed, nonempty, same⟩
    · exact .stored listed same
    · exact .bound absent listed nonempty same
  · intro names
    cases names with
    | stored listed same => exact .inl ⟨listed, same⟩
    | bound absent listed nonempty same => exact .inr ⟨absent, listed, nonempty, same⟩

theorem WellNamed.field?_storage (wellNamed : definition.WellNamed)
    (listed : field ∈ definition.fields) : definition.field? field.storage = some field :=
  wellNamed.field?_eq_some_iff.mpr (.stored listed rfl)

/-- Another field that is stored under the name of a member hides the field of the member. -/
theorem WellNamed.field?_property_iff (wellNamed : definition.WellNamed)
    (listed : field ∈ definition.fields) (bound : field.property ≠ .empty) :
    definition.field? field.property = some field ↔
      ∀ other ∈ definition.fields, other.storage = field.property → other = field := by
  rw [wellNamed.field?_eq_some_iff]
  constructor
  · intro names other otherListed stored
    cases names with
    | stored _ same =>
        exact wellNamed.eq_of_storage otherListed listed (stored.trans same.symm)
    | bound unstored =>
        exact absurd (mem_storageNames_iff.mpr ⟨other, otherListed, stored⟩) unstored
  · intro alone
    by_cases hidden : field.property ∈ definition.storageNames true
    · rcases mem_storageNames_iff.mp hidden with ⟨other, otherListed, stored⟩
      have same := alone other otherListed stored
      exact .stored listed (same ▸ stored)
    · exact .bound hidden listed bound rfl

/-! ## Views -/

theorem map_field?_storageNames (wellNamed : definition.WellNamed) :
    (definition.storageNames true).map definition.field? = definition.fields.map some := by
  rw [storageNames_true, List.map_map]
  exact List.map_congr_left fun field listed => wellNamed.field?_storage listed

/-- The names that are left out are those of the vector fields, since no other field has them. -/
theorem storageNames_false (wellNamed : definition.WellNamed) :
    definition.storageNames false = (definition.storageNames true).filter
      fun name => name ∉ definition.vectorFields.map Field.storage := by
  rw [storageNames_true, List.filter_map, storageNames]
  congr 1
  apply List.filter_congr
  intro field listed
  have vector : field.storage ∈ definition.vectorFields.map Field.storage ↔
      field.isVector = true := by
    constructor
    · intro named
      rcases List.mem_map.mp named with ⟨other, among, same⟩
      rcases List.mem_filter.mp among with ⟨otherListed, isVector⟩
      exact wellNamed.eq_of_storage otherListed listed same ▸ isVector
    · intro isVector
      exact List.mem_map_of_mem (List.mem_filter.mpr ⟨listed, isVector⟩)
  rw [Bool.false_or, Function.comp_apply, Bool.eq_iff_iff, decide_eq_true_eq, vector,
    Bool.not_eq_true', Bool.not_eq_true]

/-- The key stands at its position, and no other field is a key. -/
theorem role_eq_key_iff (only : definition.fields.filter Field.isKey = [definition.keyField])
    (wellNamed : definition.WellNamed) {position : Nat}
    (found : definition.fields[position]? = some field) :
    field.role = .key ↔ position = definition.keyIndex := by
  have isKey : field.role = .key ↔ field ∈ definition.fields.filter Field.isKey := by
    rw [List.mem_filter, and_iff_right (List.mem_of_getElem? found), Field.isKey,
      decide_eq_true_eq]
  have distinct : definition.fields.Nodup := by
    have names := wellNamed.storageNames
    rw [storageNames_true] at names
    exact names.of_map
  have atKey : definition.fields[definition.keyIndex]? = some definition.keyField :=
    List.getElem?_eq_getElem definition.keyIndex_lt
  rw [isKey, only, List.mem_singleton]
  constructor
  · intro same
    rw [same, ← atKey] at found
    exact ((List.getElem?_inj definition.keyIndex_lt distinct).mp found.symm).symm
  · intro same
    subst same
    exact Option.some.inj (found.symm.trans atKey)

/-- A name leads to the one field that is stored under it, or else to the one field whose
member has that name. There is one key, the views keep the order of the fields, and each
field is in exactly one of them. -/
theorem lookups_and_views_consistent {draft : Draft Payload}
    (built : draft.build = .ok definition) :
    ((definition.storageNames true).Nodup ∧
      (∀ name field, definition.field? name = some field ↔ definition.Names name field) ∧
      (∀ name, (∀ field, ¬ definition.Names name field) → definition.field? name = none) ∧
      (definition.storageNames true).map definition.field? = definition.fields.map some ∧
      ∀ field ∈ definition.fields, field.property ≠ .empty →
        (definition.field? field.property = some field ↔
          ∀ other ∈ definition.fields, other.storage = field.property → other = field)) ∧
    (definition.fields[definition.keyIndex]? = some definition.keyField ∧
      (∀ position field, definition.fields[position]? = some field →
        (field.role = .key ↔ position = definition.keyIndex)) ∧
      Interleaved [definition.keyField] definition.dataFields definition.vectorFields
        definition.fields) ∧
    definition.storageNames false = (definition.storageNames true).filter
      (fun name => name ∉ definition.vectorFields.map Field.storage) ∧
    definition.propertyNames = (definition.fields.map Field.property).filter (· ≠ .empty) ∧
    definition.propertyNames.Nodup := by
  have yields := Draft.build_eq_ok_iff.mp built
  have wellNamed := wellNamed_of_yields yields
  have only := yields.filter_isKey
  refine ⟨⟨wellNamed.storageNames, ?_, ?_, map_field?_storageNames wellNamed, ?_⟩, ⟨?_, ?_, ?_⟩,
    storageNames_false wellNamed, ?_, wellNamed.propertyNames⟩
  · intro name field
    exact wellNamed.field?_eq_some_iff
  · intro name nameless
    rw [Option.eq_none_iff_forall_ne_some]
    intro field found
    exact nameless field (wellNamed.field?_eq_some_iff.mp found)
  · intro field listed bound
    exact wellNamed.field?_property_iff listed bound
  · exact List.getElem?_eq_getElem definition.keyIndex_lt
  · intro position field found
    exact role_eq_key_iff only wellNamed found
  · rw [← only]
    exact interleaved_by_role definition.fields
  · refine List.filter_congr fun name _ => ?_
    rw [Bool.eq_iff_iff]
    simp

/-! A field may be stored under the name of another field's member, and hides it there. -/

def books : CollectionDefinition Empty where
  name := "books"
  fields := [
    { property := "title", storage := "label" },
    { property := "label", storage := "tag", filterable := true },
    { role := .key, property := "isbn", storage := "isbn", type := .string },
    { role := .vector, property := "cover", storage := "cover", dimensions := 4,
      type := .vector .single }]
  keyIndex := 2
  keyIndex_lt := by decide
  containerMode := false
  hooks? := none

theorem lookups_and_views_consistent_books :
    Draft.build { name := "books", fields := books.fields } = .ok books ∧
      books.field? "title" = books.fields[0]? ∧ books.field? "label" = books.fields[0]? ∧
      books.field? "tag" = books.fields[1]? ∧ books.field? "shelf" = none ∧
      books.storageNames false = ["label", "tag", "isbn"] := by
  have built : Draft.build { name := "books", fields := books.fields } = .ok books := rfl
  rcases lookups_and_views_consistent built with
    ⟨⟨_, found, missing, _, _⟩, _, withoutVectors, _, _⟩
  refine ⟨built, ?_, ?_, ?_, ?_, ?_⟩
  · exact (found "title" _).mpr (.bound (by decide) List.mem_cons_self (by decide) rfl)
  · exact (found "label" _).mpr (.stored List.mem_cons_self rfl)
  · exact (found "tag" _).mpr (.stored (List.mem_cons_of_mem _ List.mem_cons_self) rfl)
  · apply missing
    intro field names
    cases names with
    | stored listed same =>
        exact absurd (mem_storageNames_iff.mpr ⟨field, listed, same⟩) (by decide)
    | bound _ listed _ same =>
        exact absurd (List.mem_map.mpr ⟨field, listed, same⟩ : _ ∈ books.fields.map Field.property)
          (by decide)
  · rw [withoutVectors]
    decide

end CollectionDefinition

end CollectionSchema
