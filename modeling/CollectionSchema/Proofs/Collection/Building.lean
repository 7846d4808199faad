import CollectionSchema.Collection.Draft
import CollectionSchema.Proofs.Collection.Validity

/-! # Building drafts

A draft builds if and only if its fields are valid and its hooks fit its mode,
and the definition it yields is fixed by the draft.
-/

namespace CollectionSchema

namespace Draft

variable {Payload : Type}

/-! ## Drafts and what they yield -/

/-- What makes a draft build, whatever order its parts were set in. -/
structure Acceptable (draft : Draft Payload) : Prop where
  fields : Validation.Valid draft.options draft.fields
  pairedHooks : draft.pack?.isSome = draft.unpack?.isSome
  hooksInMode : draft.pack?.isSome = true → draft.containerMode = true

structure Yields (draft : Draft Payload) (definition : CollectionDefinition Payload) :
    Prop where
  valid : Validation.Valid draft.options draft.fields
  hooksInMode : draft.pack?.isSome = true → draft.containerMode = true
  name : definition.name = draft.name
  fields : definition.fields = draft.fields.map Field.resolve
  keyIndex : Validation.keyIndex? draft.fields = some definition.keyIndex
  containerMode : definition.containerMode = draft.containerMode
  pack : definition.hooks?.map Hooks.pack = draft.pack?
  unpack : definition.hooks?.map Hooks.unpack = draft.unpack?

/-! ## Hooks -/

theorem pairHooks_eq_ok_iff {draft : Draft Payload} {hooks? : Option (Hooks Payload)} :
    draft.pairHooks = .ok hooks? ↔
      hooks?.map Hooks.pack = draft.pack? ∧ hooks?.map Hooks.unpack = draft.unpack? ∧
        (draft.pack?.isSome = true → draft.containerMode = true) := by
  cases packed : draft.pack? with
  | none =>
      cases unpacked : draft.unpack? with
      | none => cases hooks? <;> simp [pairHooks, packed, unpacked]
      | some unpack => cases hooks? <;> simp [pairHooks, packed, unpacked]
  | some pack =>
      cases unpacked : draft.unpack? with
      | none => cases hooks? <;> simp [pairHooks, packed, unpacked]
      | some unpack =>
          cases mode : draft.containerMode with
          | false => simp [pairHooks, packed, unpacked, mode]
          | true =>
              cases hooks? with
              | none => simp [pairHooks, packed, unpacked, mode]
              | some hooks =>
                  rcases hooks with ⟨_, _⟩
                  simp [pairHooks, packed, unpacked, mode, eq_comm]

theorem exists_hooks {draft : Draft Payload}
    (paired : draft.pack?.isSome = draft.unpack?.isSome) :
    ∃ hooks? : Option (Hooks Payload),
      hooks?.map Hooks.pack = draft.pack? ∧ hooks?.map Hooks.unpack = draft.unpack? := by
  cases packed : draft.pack? with
  | none =>
      rw [packed] at paired
      exact ⟨none, rfl, (Option.isNone_iff_eq_none.mp (by simpa using paired.symm)).symm⟩
  | some pack =>
      rw [packed] at paired
      rcases Option.isSome_iff_exists.mp paired.symm with ⟨unpack, unpacked⟩
      exact ⟨some ⟨pack, unpack⟩, rfl, unpacked.symm⟩

/-! ## Building -/

theorem valid_resolvedFields_iff {draft : Draft Payload} :
    Validation.Valid draft.options draft.resolvedFields ↔
      Validation.Valid draft.options draft.fields :=
  Validation.valid_map_iff fun field _ => Validation.alike_resolve field

theorem keyIndex?_resolvedFields (draft : Draft Payload) :
    Validation.keyIndex? draft.resolvedFields = Validation.keyIndex? draft.fields :=
  Validation.keyIndex?_map fun field _ => Validation.alike_resolve field

theorem build_eq_ok_iff {draft : Draft Payload} {definition : CollectionDefinition Payload} :
    draft.build = .ok definition ↔ draft.Yields definition := by
  constructor
  · intro built
    simp only [build] at built
    split at built
    · cases built
    · rename_i index validated
      split at built
      · cases built
      · rename_i hooks? paired
        cases built
        rcases validate_eq_ok_iff.mp validated with ⟨valid, found⟩
        rcases pairHooks_eq_ok_iff.mp paired with ⟨pack, unpack, hooksInMode⟩
        exact {
          valid := valid_resolvedFields_iff.mp valid
          hooksInMode
          name := rfl
          fields := rfl
          keyIndex := draft.keyIndex?_resolvedFields ▸ found
          containerMode := rfl
          pack
          unpack }
  · intro yields
    rcases definition with ⟨name, fields, keyIndex, keyIndex_lt, containerMode, hooks?⟩
    rcases yields with ⟨valid, hooksInMode, rfl, sameFields, found, rfl, pack, unpack⟩
    change fields = draft.resolvedFields at sameFields
    subst sameFields
    have validated : validate draft.options draft.resolvedFields = .ok ⟨keyIndex, keyIndex_lt⟩ :=
      validate_eq_ok_iff.mpr
        ⟨valid_resolvedFields_iff.mpr valid, draft.keyIndex?_resolvedFields ▸ found⟩
    have paired : draft.pairHooks = .ok hooks? :=
      pairHooks_eq_ok_iff.mpr ⟨pack, unpack, hooksInMode⟩
    simp [build, validated, paired]

theorem acceptable_iff {draft : Draft Payload} :
    draft.Acceptable ↔ ∃ definition, draft.Yields definition := by
  constructor
  · intro acceptable
    rcases acceptable.fields.exists_keyIndex with ⟨index, found⟩
    rcases exists_hooks acceptable.pairedHooks with ⟨hooks?, pack, unpack⟩
    have inRange : index < (draft.fields.map Field.resolve).length := by
      rw [List.length_map]
      exact Validation.keyIndex?_lt found
    exact ⟨{
        name := draft.name
        fields := draft.fields.map Field.resolve
        keyIndex := index
        keyIndex_lt := inRange
        containerMode := draft.containerMode
        hooks? },
      { valid := acceptable.fields
        hooksInMode := acceptable.hooksInMode
        name := rfl
        fields := rfl
        keyIndex := found
        containerMode := rfl
        pack
        unpack }⟩
  · intro yielded
    rcases yielded with ⟨definition, yields⟩
    exact {
      fields := yields.valid
      pairedHooks := by rw [← yields.pack, ← yields.unpack, Option.isSome_map, Option.isSome_map]
      hooksInMode := yields.hooksInMode }

/-- The key of a definition is the one key field of its draft. -/
theorem Yields.keyField {draft : Draft Payload} {definition : CollectionDefinition Payload}
    (yields : draft.Yields definition) {key : Field}
    (only : draft.fields.filter Field.isKey = [key]) : definition.keyField = key.resolve := by
  have found := Validation.getElem?_keyIndex only yields.keyIndex
  have there : definition.fields[definition.keyIndex]? = some key.resolve := by
    rw [yields.fields, List.getElem?_map, found]
    rfl
  rw [List.getElem?_eq_getElem definition.keyIndex_lt] at there
  exact Option.some.inj there

theorem Yields.filter_isKey {draft : Draft Payload} {definition : CollectionDefinition Payload}
    (yields : draft.Yields definition) :
    definition.fields.filter Field.isKey = [definition.keyField] := by
  rcases yields.valid.key with ⟨key, only, _⟩
  rw [yields.keyField only, yields.fields, List.filter_map]
  exact congrArg (List.map Field.resolve) only

/-- Whatever edits a draft has gone through, it builds exactly if it is acceptable
then. The definition lists the fields in order under their resolved names. A draft
that is refused leaves the caller's variable as it was. -/
theorem build_editAll (initial : Draft Payload) (edits : List (Edit Payload))
    (held : Option (CollectionDefinition Payload)) :
    let draft := initial.editAll edits
    ((∃ definition, draft.build = .ok definition) ↔ draft.Acceptable) ∧
      (∀ definition, draft.build = .ok definition →
        definition.fields = draft.fields.map Field.resolve ∧
          (∃ key, draft.fields.filter Field.isKey = [key] ∧
            definition.keyField = key.resolve ∧ definition.keyName = key.resolvedName) ∧
          definition.name = draft.name ∧ definition.containerMode = draft.containerMode ∧
          definition.hooks?.map Hooks.pack = draft.pack? ∧
          definition.hooks?.map Hooks.unpack = draft.unpack?) ∧
      ∀ error, draft.build = .error error →
        error.status.kind? = some .validation ∧ assign held (draft.build.map some) = held := by
  intro draft
  refine ⟨?_, ?_, ?_⟩
  · rw [acceptable_iff]
    exact exists_congr fun definition => build_eq_ok_iff
  · intro definition built
    have yields := build_eq_ok_iff.mp built
    rcases yields.valid.key with ⟨key, only, _⟩
    have keyField := yields.keyField only
    exact ⟨yields.fields, ⟨key, only, keyField, congrArg Field.storage keyField⟩, yields.name,
      yields.containerMode, yields.pack, yields.unpack⟩
  · intro error refused
    exact ⟨Status.kind?_failure _ _, by rw [refused]; rfl⟩

def labelled (storage : Text) : List (Edit Empty) :=
  [.addField { property := "id", role := .key, type := .string },
    .addField { property := "label", storage },
    .options { requireVector := false }]

/-- A key that is stored under its member's name takes that name from other fields. -/
theorem build_labelled :
    (∃ definition, (editAll {} (labelled "tag")).build = .ok definition ∧
      definition.keyName = "id") ∧
    ¬ ∃ definition, (editAll {} (labelled "id")).build = .ok definition := by
  constructor
  · rcases (⟨_, rfl⟩ : ∃ definition, (editAll {} (labelled "tag")).build = .ok definition)
      with ⟨definition, built⟩
    rcases ((build_editAll {} (labelled "tag") none).2.1 definition built).2.1 with
      ⟨key, only, _, keyName⟩
    refine ⟨definition, built, ?_⟩
    cases only
    exact keyName
  · rw [(build_editAll {} (labelled "id") none).1]
    intro acceptable
    have distinct := acceptable.fields.distinctNames
    exact absurd distinct (by decide)

end Draft

end CollectionSchema
