import CollectionSchema.Field.Marking
import CollectionSchema.Proofs.Field.Format

/-! # Reading markings

A marking reads as a field if and only if its role token is known and every metadata
entry is one that fields of the role have. No key is listed twice, so each attribute
comes from the one entry of its key, wherever that stands.
-/

namespace CollectionSchema

/-! ## Entries -/

theorem Metadata.wellFormed (metadata : Metadata) : Dictionary.WellFormed metadata.entries :=
  List.pairwise_map.mpr (metadata.sorted.imp Text.ne_of_lt)

namespace Attribute

def vectorKeys : List Text := ["dimensions", "indexKind", "distanceFunction"]

def dataKeys : List Text := ["isFullTextIndexed", "isFilterable"]

def keys : List Text := "name" :: "type" :: (vectorKeys ++ dataKeys)

/-- What an entry tells of a field of the role. Entries that tell nothing are refused. -/
inductive Tells (role : Role) : Text → Text → Attribute → Prop
  | storage {name : Text} (named : name ≠ .empty) : Tells role "name" name (.storage name)
  | type {token : Text} {known : FieldType}
      (parsed : FieldType.parse? role token = some known) :
      Tells role "type" token (.type known)
  | dimensions {text : Text} {count : Int64} (onVector : role = .vector)
      (parsed : text.integer? = some count) (positive : 0 < count.toInt) :
      Tells role "dimensions" text (.dimensions count.toUInt64)
  | indexKind {token : Text} (onVector : role = .vector) :
      Tells role "indexKind" token (.indexKind token)
  | distanceFunction {token : Text} (onVector : role = .vector) :
      Tells role "distanceFunction" token (.distanceFunction token)
  | fullTextIndexed {text : Text} {flag : Bool} (onData : role = .data)
      (parsed : text.flag? = some flag) :
      Tells role "isFullTextIndexed" text (.fullTextIndexed flag)
  | filterable {text : Text} {flag : Bool} (onData : role = .data)
      (parsed : text.flag? = some flag) :
      Tells role "isFilterable" text (.filterable flag)

/-- Why an entry is refused. The role is looked at before the text. -/
inductive Refused (role : Role) : Text → Text → EntryError → Prop
  | emptyName : Refused role "name" .empty .emptyName
  | type {token : Text} (unknown : FieldType.parse? role token = none) :
      Refused role "type" token (.token (.type token))
  | offVector {key text : Text} (listed : key ∈ vectorKeys) (other : role ≠ .vector) :
      Refused role key text (.misplaced key role)
  | offData {key text : Text} (listed : key ∈ dataKeys) (other : role ≠ .data) :
      Refused role key text (.misplaced key role)
  | dimensions {text : Text} (onVector : role = .vector)
      (unread : ∀ count, text.integer? = some count → ¬ 0 < count.toInt) :
      Refused role "dimensions" text (.dimensions text)
  | flag {key text : Text} (listed : key ∈ dataKeys) (onData : role = .data)
      (unread : text.flag? = none) : Refused role key text (.flag key text)
  | unknownKey {key text : Text} (unlisted : key ∉ keys) :
      Refused role key text (.unknownKey key)

section Entries

variable {role : Role} {key text : Text} {told : Attribute} {cause : EntryError}

theorem Tells.read_eq (tells : Tells role key text told) : read role key text = .ok told := by
  cases tells with
  | storage named => simp [read, named]
  | type parsed => simp [read, FieldType.read, parsed]
  | dimensions onVector parsed positive =>
      simp [read, forRole, readDimensions, onVector, parsed, positive]
  | indexKind onVector => simp [read, forRole, onVector]
  | distanceFunction onVector => simp [read, forRole, onVector]
  | fullTextIndexed onData parsed => simp [read, forRole, readFlag, onData, parsed]
  | filterable onData parsed => simp [read, forRole, readFlag, onData, parsed]

theorem Refused.read_eq (refused : Refused role key text cause) :
    read role key text = .error cause := by
  cases refused with
  | emptyName => simp [read]
  | type unknown => simp [read, FieldType.read, unknown]
  | offVector listed other =>
      simp only [vectorKeys, List.mem_cons, List.not_mem_nil, or_false] at listed
      rcases listed with rfl | rfl | rfl <;> simp [read, forRole, other]
  | offData listed other =>
      simp only [dataKeys, List.mem_cons, List.not_mem_nil, or_false] at listed
      rcases listed with rfl | rfl <;> simp [read, forRole, other]
  | dimensions onVector unread =>
      cases parsed : text.integer? with
      | none => simp [read, forRole, readDimensions, onVector, parsed]
      | some count => simp [read, forRole, readDimensions, onVector, parsed, unread count parsed]
  | flag listed onData unread =>
      simp only [dataKeys, List.mem_cons, List.not_mem_nil, or_false] at listed
      rcases listed with rfl | rfl <;> simp [read, forRole, readFlag, onData, unread]
  | unknownKey unlisted =>
      simp only [keys, vectorKeys, dataKeys, List.cons_append, List.nil_append, List.mem_cons,
        List.not_mem_nil, or_false, not_or] at unlisted
      simp [read, unlisted]

/-- Every entry tells something or is refused. -/
theorem tells_or_refused (role : Role) (key text : Text) :
    (∃ told, Tells role key text told) ∨ ∃ cause, Refused role key text cause := by
  by_cases offVector : key ∈ vectorKeys ∧ role ≠ .vector
  · exact .inr ⟨_, .offVector offVector.1 offVector.2⟩
  by_cases offData : key ∈ dataKeys ∧ role ≠ .data
  · exact .inr ⟨_, .offData offData.1 offData.2⟩
  by_cases unlisted : key ∉ keys
  · exact .inr ⟨_, .unknownKey unlisted⟩
  -- The key is one that fields of the role have, so the text decides.
  rw [not_and, not_not] at offVector offData
  simp only [keys, vectorKeys, dataKeys, List.cons_append, List.nil_append, List.mem_cons,
    List.not_mem_nil, or_false, not_not] at unlisted
  rcases unlisted with rfl | rfl | rfl | rfl | rfl | rfl | rfl
  · by_cases named : text = .empty
    · subst named
      exact .inr ⟨_, .emptyName⟩
    · exact .inl ⟨_, .storage named⟩
  · cases parsed : FieldType.parse? role text with
    | none => exact .inr ⟨_, .type parsed⟩
    | some known => exact .inl ⟨_, .type parsed⟩
  · have onVector := offVector (by decide)
    by_cases read : ∃ count, text.integer? = some count ∧ 0 < count.toInt
    · rcases read with ⟨count, parsed, positive⟩
      exact .inl ⟨_, .dimensions onVector parsed positive⟩
    · exact .inr ⟨_, .dimensions onVector fun count parsed positive =>
        read ⟨count, parsed, positive⟩⟩
  · exact .inl ⟨_, .indexKind (offVector (by decide))⟩
  · exact .inl ⟨_, .distanceFunction (offVector (by decide))⟩
  · have onData := offData (by decide)
    cases parsed : text.flag? with
    | none => exact .inr ⟨_, .flag (by decide) onData parsed⟩
    | some flag => exact .inl ⟨_, .fullTextIndexed onData parsed⟩
  · have onData := offData (by decide)
    cases parsed : text.flag? with
    | none => exact .inr ⟨_, .flag (by decide) onData parsed⟩
    | some flag => exact .inl ⟨_, .filterable onData parsed⟩

theorem read_eq_ok_iff : read role key text = .ok told ↔ Tells role key text told := by
  constructor
  · intro succeeded
    rcases tells_or_refused role key text with ⟨other, tells⟩ | ⟨cause, refused⟩
    · cases tells.read_eq.symm.trans succeeded
      exact tells
    · cases refused.read_eq.symm.trans succeeded
  · exact Tells.read_eq

theorem read_eq_error_iff : read role key text = .error cause ↔ Refused role key text cause := by
  constructor
  · intro failed
    rcases tells_or_refused role key text with ⟨told, tells⟩ | ⟨other, refused⟩
    · cases tells.read_eq.symm.trans failed
    · cases refused.read_eq.symm.trans failed
      exact refused
  · exact Refused.read_eq

end Entries

/-! ## Entries in order -/

section Lists

variable {role : Role} {key text : Text} {told : Attribute} {entries : List (Text × Text)}
  {all : List Attribute}

/-- An entry sets the part of its key. -/
theorem Tells.applyTo_eq (tells : Tells role key text told) (field : Field) :
    applyTo field told =
      { field with
        storage := if key = "name" then text else field.storage
        type := if key = "type" then (FieldType.parse? role text).getD .unknown else field.type
        dimensions := if key = "dimensions" then (text.integer?.map Int64.toUInt64).getD 0
          else field.dimensions
        indexKind := if key = "indexKind" then text else field.indexKind
        distanceFunction := if key = "distanceFunction" then text else field.distanceFunction
        fullTextIndexed := if key = "isFullTextIndexed" then text.flag?.getD false
          else field.fullTextIndexed
        filterable := if key = "isFilterable" then text.flag?.getD false
          else field.filterable } := by
  cases tells <;> simp_all [applyTo]

/-- A part that no entry sets but those of one key is that of the only such entry, or
stays as it was. -/
theorem foldl_applyTo_eq {Part : Type} (part : Field → Part) (key : Text) (value : Text → Part)
    (step : ∀ {field : Field} {other text : Text} {told : Attribute}, Tells role other text told →
      part (applyTo field told) = if other = key then value text else part field)
    (wellFormed : Dictionary.WellFormed entries)
    (tell : List.Forall₂ (fun entry told => Tells role entry.1 entry.2 told) entries all)
    (field : Field) :
    part (all.foldl applyTo field) =
      (Dictionary.get? key entries).elim (part field) value := by
  induction tell generalizing field with
  | nil => rfl
  | @cons entry told rest others first _ induction =>
      rcases entry with ⟨other, text⟩
      have parts := List.nodup_cons.mp wellFormed
      rw [List.foldl_cons, induction parts.2, step first, Dictionary.get?]
      by_cases equal : other = key
      · subst equal
        have absent : Dictionary.get? other rest = none := by
          rw [← Option.not_isSome_iff_eq_none, Dictionary.get?_isSome_iff]
          exact parts.1
        rw [absent, if_pos rfl, if_pos rfl]
        rfl
      · rw [if_neg equal, if_neg equal]

end Lists

end Attribute

/-! ## Fields -/

/-- The role token is known in any case, and every entry is one of the role's. -/
structure Marking.Documented (marking : Marking) (role : Role) : Prop where
  token : marking.role.lower = role.name
  entries : ∀ entry ∈ marking.metadata.entries, ∃ told, Attribute.Tells role entry.1 entry.2 told

attribute [ext] Field

/-- The role token is looked at first, and then the entries in the order of their keys. -/
inductive Marking.Refused (marking : Marking) : EntryError → Prop
  | role (unknown : ∀ role : Role, marking.role.lower ≠ role.name) :
      Refused marking (.token (.role marking.role))
  | entry {role : Role} {front back : List (Text × Text)} {key text : Text} {cause : EntryError}
      (token : marking.role.lower = role.name)
      (split : marking.metadata.entries = front ++ (key, text) :: back)
      (before : ∀ entry ∈ front, ∃ told, Attribute.Tells role entry.1 entry.2 told)
      (refused : Attribute.Refused role key text cause) : Refused marking cause

namespace FieldDescriptor

/-- The field of a member that is marked with the role and the metadata. -/
def markedField (descriptor : FieldDescriptor) (role : Role) (metadata : Metadata) : Field where
  role
  property := descriptor.name
  storage := (metadata.get? "name").getD .empty
  type :=
    match metadata.get? "type" with
    | none => descriptor.declaredType
    | some token =>
        let type := (FieldType.parse? role token).getD .unknown
        if descriptor.declaredType.isVectorOrText then type.withSourceText else type
  dimensions := (((metadata.get? "dimensions").bind Text.integer?).map Int64.toUInt64).getD 0
  indexKind := (metadata.get? "indexKind").getD .empty
  distanceFunction := (metadata.get? "distanceFunction").getD .empty
  fullTextIndexed := ((metadata.get? "isFullTextIndexed").bind Text.flag?).getD false
  filterable := ((metadata.get? "isFilterable").bind Text.flag?).getD false
  default? := descriptor.default?

section

variable {descriptor : FieldDescriptor} {marking : Marking} {role : Role} {field : Field}
  {all : List Attribute}

/-- The attributes of a marking, before the declared type is looked at. -/
theorem foldl_applyTo_bare
    (tell : List.Forall₂ (fun entry told => Attribute.Tells role entry.1 entry.2 told)
      marking.metadata.entries all) :
    all.foldl Attribute.applyTo
        { role, property := descriptor.name, default? := descriptor.default? } =
      { descriptor.markedField role marking.metadata with
        type := (marking.metadata.get? "type").elim .unknown fun token =>
          (FieldType.parse? role token).getD .unknown } := by
  have kept := List.foldlRecOn all Attribute.applyTo
    (motive := fun field : Field => field.role = role ∧ field.property = descriptor.name ∧
      field.default? = descriptor.default?)
    (b := { role, property := descriptor.name, default? := descriptor.default? })
    ⟨rfl, rfl, rfl⟩ fun _ same told _ => by cases told <;> exact same
  have set {Part : Type} (part : Field → Part) (key : Text) (value : Text → Part) step field :
      part (all.foldl Attribute.applyTo field) =
        (marking.metadata.get? key).elim (part field) value :=
    Attribute.foldl_applyTo_eq part key value step marking.metadata.wellFormed tell field
  apply Field.ext
  · exact kept.1
  · exact kept.2.1
  · rw [set Field.storage "name" id fun tells => congrArg Field.storage (tells.applyTo_eq _)]
    cases found : marking.metadata.get? "name" <;> simp [markedField, found]
  · rw [set Field.type "type" (fun token => (FieldType.parse? role token).getD .unknown)
      fun tells => congrArg Field.type (tells.applyTo_eq _)]
  · rw [set Field.dimensions "dimensions" (fun text => (text.integer?.map Int64.toUInt64).getD 0)
      fun tells => congrArg Field.dimensions (tells.applyTo_eq _)]
    cases found : marking.metadata.get? "dimensions" <;> simp [markedField, found]
  · rw [set Field.indexKind "indexKind" id
      fun tells => congrArg Field.indexKind (tells.applyTo_eq _)]
    cases found : marking.metadata.get? "indexKind" <;> simp [markedField, found]
  · rw [set Field.distanceFunction "distanceFunction" id
      fun tells => congrArg Field.distanceFunction (tells.applyTo_eq _)]
    cases found : marking.metadata.get? "distanceFunction" <;> simp [markedField, found]
  · rw [set Field.fullTextIndexed "isFullTextIndexed" (·.flag?.getD false)
      fun tells => congrArg Field.fullTextIndexed (tells.applyTo_eq _)]
    cases found : marking.metadata.get? "isFullTextIndexed" <;> simp [markedField, found]
  · rw [set Field.filterable "isFilterable" (·.flag?.getD false)
      fun tells => congrArg Field.filterable (tells.applyTo_eq _)]
    cases found : marking.metadata.get? "isFilterable" <;> simp [markedField, found]
  · exact kept.2.2

theorem typed_foldl_applyTo
    (tell : List.Forall₂ (fun entry told => Attribute.Tells role entry.1 entry.2 told)
      marking.metadata.entries all) :
    descriptor.typed (marking.metadata.get? "type").isSome (all.foldl Attribute.applyTo
        { role, property := descriptor.name, default? := descriptor.default? }) =
      descriptor.markedField role marking.metadata := by
  rw [foldl_applyTo_bare tell]
  cases found : marking.metadata.get? "type" with
  | none => simp [typed, markedField, found]
  | some token =>
      cases union : descriptor.declaredType.isVectorOrText <;>
        simp [typed, markedField, found, union]

theorem fieldOfMarking_eq_ok_iff :
    descriptor.fieldOfMarking marking = .ok field ↔
      ∃ role, marking.Documented role ∧ field = descriptor.markedField role marking.metadata := by
  simp only [fieldOfMarking, bind_eq_ok_iff, mapError_eq_ok_iff, Role.read_eq_ok_iff,
    Role.parse?_eq_some_iff, Metadata.attributes]
  constructor
  · intro made
    rcases made with ⟨role, token, all, read, equal⟩
    have each := exists_mapM_eq_ok_iff.mp ⟨all, read⟩
    simp only [mapM_eq_ok_iff_forall₂, Attribute.read_eq_ok_iff] at read each
    cases equal
    exact ⟨role, ⟨token, each⟩, typed_foldl_applyTo read⟩
  · intro documented
    rcases documented with ⟨role, ⟨token, each⟩, rfl⟩
    simp only [← Attribute.read_eq_ok_iff, ← exists_mapM_eq_ok_iff] at each
    rcases each with ⟨all, read⟩
    refine ⟨role, token, all, read, ?_⟩
    simp only [mapM_eq_ok_iff_forall₂, Attribute.read_eq_ok_iff] at read
    exact congrArg Except.ok (typed_foldl_applyTo read)

theorem refused_of_fieldOfMarking {cause : EntryError}
    (failed : descriptor.fieldOfMarking marking = .error cause) : marking.Refused cause := by
  rw [fieldOfMarking, bind_eq_error_iff, mapError_eq_error_iff] at failed
  rcases failed with ⟨error, failed, rfl⟩ | ⟨role, token, failed⟩
  · rcases Role.read_eq_error_iff.mp failed with ⟨unknown, rfl⟩
    refine .role fun role named => ?_
    cases unknown.symm.trans (Role.parse?_eq_some_iff.mpr named)
  · rw [mapError_eq_ok_iff, Role.read_eq_ok_iff, Role.parse?_eq_some_iff] at token
    rcases bind_eq_error_iff.mp failed with failed | ⟨_, _, succeeded⟩
    · rcases mapM_eq_error_iff.mp failed with ⟨front, ⟨key, text⟩, back, split, before, failed⟩
      simp only [Attribute.read_eq_ok_iff] at before
      exact .entry token split before (Attribute.read_eq_error_iff.mp failed)
    · cases succeeded

theorem field_eq_ok_iff :
    descriptor.field = .ok field ↔ ∃ marking role, descriptor.marking? = some marking ∧
      marking.Documented role ∧ field = descriptor.markedField role marking.metadata := by
  cases marked : descriptor.marking? with
  | none => simp [FieldDescriptor.field, marked]
  | some marking =>
      simp only [FieldDescriptor.field, marked, mapError_eq_ok_iff, fieldOfMarking_eq_ok_iff,
        Option.some.injEq]
      constructor
      · intro made
        rcases made with ⟨role, parts⟩
        exact ⟨marking, role, rfl, parts⟩
      · intro made
        rcases made with ⟨_, role, rfl, parts⟩
        exact ⟨role, parts⟩

end

/-- A member gives a field if and only if it is marked, its role token is known in any
case, and every entry is one that fields of the role have. The field is told by the
entries, wherever they stand. A failure names the member and the first thing that is
wrong with its marking, and leaves the caller's variable as it was. -/
theorem documented_markings_only (descriptor : FieldDescriptor) (held : Field) :
    ((∃ field, descriptor.field = .ok field) ↔
      ∃ marking role, descriptor.marking? = some marking ∧ marking.Documented role) ∧
    (∀ marking role, descriptor.marking? = some marking → marking.Documented role →
      descriptor.field = .ok (descriptor.markedField role marking.metadata)) ∧
    ∀ error, descriptor.field = .error error →
      (descriptor.marking? = none ∧ error = .unmarked descriptor.name ∨
        ∃ marking cause, descriptor.marking? = some marking ∧ marking.Refused cause ∧
          error = .rejected descriptor.name cause) ∧
      error.status.kind? = some .schema ∧
      (∃ rest, error.status.message = "Field '" ++ descriptor.name ++ rest) ∧
      assign held descriptor.field = held := by
  refine ⟨?_, ?_, ?_⟩
  · constructor
    · intro succeeded
      rcases succeeded with ⟨field, made⟩
      rcases field_eq_ok_iff.mp made with ⟨marking, role, marked, documented, _⟩
      exact ⟨marking, role, marked, documented⟩
    · intro documented
      rcases documented with ⟨marking, role, marked, documented⟩
      exact ⟨_, field_eq_ok_iff.mpr ⟨marking, role, marked, documented, rfl⟩⟩
  · intro marking role marked documented
    exact field_eq_ok_iff.mpr ⟨marking, role, marked, documented, rfl⟩
  · intro error failed
    have untouched : assign held descriptor.field = held := by rw [failed]; rfl
    cases marked : descriptor.marking? with
    | none =>
        rw [FieldDescriptor.field, marked] at failed
        cases failed
        exact ⟨.inl ⟨rfl, rfl⟩, Status.kind?_failure _ _, ⟨_, rfl⟩, untouched⟩
    | some marking =>
        rw [FieldDescriptor.field, marked] at failed
        rcases mapError_eq_error_iff.mp failed with ⟨cause, stopped, rfl⟩
        refine ⟨.inr ⟨marking, cause, rfl, refused_of_fieldOfMarking stopped, rfl⟩,
          Status.kind?_failure _ _, ⟨"': " ++ cause.message, ?_⟩, untouched⟩
        exact Text.append_assoc _ _ _

end FieldDescriptor

end CollectionSchema
