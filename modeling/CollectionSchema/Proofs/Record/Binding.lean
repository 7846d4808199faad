import CollectionSchema.Proofs.Collection.Documents
import CollectionSchema.Proofs.Record.Fitting

/-! # Members and their fields

An extracted definition has one field for each marked member, in order. A mapper finds
the members again by their names, which are distinct where they are not empty. So each
field comes back to the member that declared it, unless that has no name and another
marked member before it has none.
-/

namespace CollectionSchema

variable {recordType : RecordType} {Payload : Type}

/-! ## Marked members -/

/-- A marked declaration, with its position among all of them. -/
structure MarkedMember (recordType : RecordType) where
  position : Nat
  name : Text
  member : recordType.Member

def Declaration.markedMember? (position : Nat) :
    Declaration recordType → Option (MarkedMember recordType)
  | plain _ _ => none
  | marked name member _ _ => some ⟨position, name, member⟩

theorem Declaration.position_of_markedMember? {position : Nat}
    {declaration : Declaration recordType} {marked : MarkedMember recordType}
    (made : declaration.markedMember? position = some marked) : marked.position = position := by
  cases declaration with
  | plain => cases made
  | marked =>
      cases made
      rfl

namespace RecordDescriptor

variable {descriptor : RecordDescriptor recordType} {marked : MarkedMember recordType}

def markedMembers (descriptor : RecordDescriptor recordType) : List (MarkedMember recordType) :=
  descriptor.declarations.zipIdx.filterMap fun listed => listed.1.markedMember? listed.2

/-- Where the search for a name ends. -/
def markedMember? (descriptor : RecordDescriptor recordType) (name : Text) :
    Option (MarkedMember recordType) :=
  descriptor.markedMembers.find? (·.name = name)

theorem pairwise_markedMembers (descriptor : RecordDescriptor recordType) :
    descriptor.markedMembers.Pairwise (·.position < ·.position) := by
  have positions : descriptor.declarations.zipIdx.Pairwise (·.2 < ·.2) := by
    rw [← List.pairwise_map, List.zipIdx_map_snd]
    exact List.pairwise_lt_range'
  apply positions.filterMap
  intro first second less marked made other alsoMade
  rw [Declaration.position_of_markedMember? made, Declaration.position_of_markedMember? alsoMade]
  exact less

theorem member?_eq (descriptor : RecordDescriptor recordType) (name : Text) :
    descriptor.member? name = (descriptor.markedMember? name).map MarkedMember.member := by
  have general (declarations : List (Declaration recordType)) (start : Nat) :
      declarations.findSome? (Declaration.boundTo? name) =
        (((declarations.zipIdx start).filterMap fun listed =>
          listed.1.markedMember? listed.2).find? (·.name = name)).map MarkedMember.member := by
    induction declarations generalizing start with
    | nil => rfl
    | cons declaration rest induction =>
        cases declaration with
        | plain => exact induction (start + 1)
        | marked other member =>
            by_cases same : other = name
            · simp [Declaration.boundTo?, Declaration.markedMember?, same]
            · simpa [Declaration.boundTo?, Declaration.markedMember?, same] using
                induction (start + 1)
  exact general descriptor.declarations 0

theorem map_name_markedMembers (descriptor : RecordDescriptor recordType) :
    descriptor.markedMembers.map MarkedMember.name =
      (descriptor.descriptors.filter (·.marking?.isSome)).map (·.name) := by
  have general (declarations : List (Declaration recordType)) (start : Nat) :
      ((declarations.zipIdx start).filterMap fun listed =>
        listed.1.markedMember? listed.2).map MarkedMember.name =
        ((declarations.map Declaration.descriptor).filter (·.marking?.isSome)).map (·.name) := by
    induction declarations generalizing start with
    | nil => rfl
    | cons declaration rest induction =>
        cases declaration with
        | plain => exact induction (start + 1)
        | marked name => exact congrArg (name :: ·) (induction (start + 1))
  exact general descriptor.declarations 0

/-- The member has a name, or is the first of the marked members that have none. -/
def Findable (descriptor : RecordDescriptor recordType) (marked : MarkedMember recordType) :
    Prop :=
  marked.name = .empty →
    ∀ other ∈ descriptor.markedMembers, other.name = .empty → marked.position ≤ other.position

instance (descriptor : RecordDescriptor recordType) (marked : MarkedMember recordType) :
    Decidable (descriptor.Findable marked) :=
  inferInstanceAs (Decidable (_ → ∀ other ∈ descriptor.markedMembers, _ → _))

theorem markedMember?_name
    (distinct : ((descriptor.markedMembers.map MarkedMember.name).filter (!·.isEmpty)).Nodup)
    (listed : marked ∈ descriptor.markedMembers) (findable : descriptor.Findable marked) :
    descriptor.markedMember? marked.name = some marked := by
  rcases List.append_of_mem listed with ⟨before, after, split⟩
  rw [markedMember?, List.find?_eq_some_iff_append]
  refine ⟨decide_eq_true rfl, before, after, split, ?_⟩
  intro earlier among
  rw [Bool.not_eq_true', decide_eq_false_iff_not]
  intro same
  by_cases unnamed : marked.name = .empty
  · have sorted := descriptor.pairwise_markedMembers
    rw [split] at sorted
    have less := (List.pairwise_append.mp sorted).2.2 earlier among marked List.mem_cons_self
    have earlierListed : earlier ∈ descriptor.markedMembers :=
      split ▸ List.mem_append_left _ among
    have least := findable unnamed earlier earlierListed (same.trans unnamed)
    omega
  · rw [split, List.Nodup, List.pairwise_filter, List.pairwise_map,
      List.pairwise_append] at distinct
    have named : (!marked.name.isEmpty) = true := by simp [unnamed]
    exact distinct.2.2 earlier among marked List.mem_cons_self (same ▸ named) named same

/-! ## Extracted definitions -/

/-- The definition was built from one field for each marked member, in order. -/
structure Extracted (descriptor : RecordDescriptor recordType)
    (definition : CollectionDefinition Payload) : Prop where
  built : ∃ draft : Draft Payload, draft.build = .ok definition
  properties : definition.fields.map (·.property) =
    descriptor.markedMembers.map MarkedMember.name
  distinct : ((descriptor.markedMembers.map MarkedMember.name).filter (!·.isEmpty)).Nodup

section

variable {definition : CollectionDefinition Payload}

theorem extracted_of_extract {options : ValidationOptions}
    (made : descriptor.extract options = .ok definition) : descriptor.Extracted definition := by
  rcases CollectionDefinition.extract_eq_ok_iff.mp made with ⟨fields, read, yields⟩
  have names : fields.map (·.property) = descriptor.markedMembers.map MarkedMember.name := by
    rw [map_name_markedMembers]
    exact FieldDescriptor.properties_of_fields read
  refine ⟨⟨_, Draft.build_eq_ok_iff.mpr yields⟩, ?_, ?_⟩
  · rw [yields.fields, List.map_map, ← names]
    rfl
  · rw [← names]
    exact yields.valid.distinctProperties

/-- The field of the binding leads back to the marked member, and to no other. -/
structure Serves (descriptor : RecordDescriptor recordType) (marked : MarkedMember recordType)
    (binding : Binding recordType) : Prop where
  accessor : descriptor.markedMember? binding.field.property = some marked
  member : binding.member = marked.member

theorem Extracted.exists_bind (extracted : descriptor.Extracted definition) :
    ∃ mapper, descriptor.bind (some definition) = .ok mapper := by
  have each : ∀ field ∈ definition.fields, ∃ binding,
      descriptor.bindField definition.name field = .ok binding := by
    intro field listed
    have named : field.property ∈ descriptor.markedMembers.map MarkedMember.name :=
      extracted.properties ▸ List.mem_map_of_mem listed
    rcases List.mem_map.mp named with ⟨marked, among, same⟩
    have found : (descriptor.markedMember? field.property).isSome = true :=
      List.find?_isSome.mpr ⟨marked, among, decide_eq_true same⟩
    rcases Option.isSome_iff_exists.mp found with ⟨first, found⟩
    refine ⟨⟨field, first.member⟩, bindField_eq_ok_iff.mpr ⟨rfl, ?_⟩⟩
    rw [member?_eq, found]
    rfl
  rcases exists_mapM_eq_ok_iff.mpr each with ⟨bindings, made⟩
  exact ⟨⟨definition, bindings⟩, bind_eq_ok_iff.mpr ⟨rfl, made⟩⟩

/-- Bindings and marked members go together in order. -/
theorem Extracted.serves (extracted : descriptor.Extracted definition)
    {mapper : Mapper recordType Payload}
    (bound : descriptor.bind (some definition) = .ok mapper) :
    List.Forall₂ (fun marked binding => descriptor.Findable marked →
      descriptor.Serves marked binding) descriptor.markedMembers mapper.bindings := by
  have names := extracted.properties
  rw [← fields_of_bind bound, List.map_map] at names
  have same : List.Forall₂ (· = ·) (descriptor.markedMembers.map MarkedMember.name)
      (mapper.bindings.map ((·.property) ∘ Binding.field)) := by
    rw [List.forall₂_eq_eq_eq]
    exact names.symm
  rw [List.forall₂_map_left_iff, List.forall₂_map_right_iff] at same
  rcases List.forall₂_iff_zip.mp same with ⟨sameLength, each⟩
  refine List.forall₂_iff_zip.mpr ⟨sameLength, ?_⟩
  intro marked binding together findable
  rcases List.of_mem_zip together with ⟨listed, bindingListed⟩
  have name : marked.name = binding.field.property := each together
  have accessor := name ▸ markedMember?_name extracted.distinct listed findable
  have found := Mapper.members_of_bind bound binding bindingListed
  rw [member?_eq, accessor] at found
  exact ⟨accessor, (Option.some.inj found).symm⟩

end

theorem map_entry_of_serves {members : List (MarkedMember recordType)}
    {bindings : List (Binding recordType)}
    (serves : List.Forall₂ descriptor.Serves members bindings) (record : Record recordType) :
    bindings.map (Mapper.entry record) =
      (bindings.map Binding.field).zipWith (fun field marked =>
        (field.storage, record.encode marked.member)) members := by
  induction serves with
  | nil => rfl
  | cons first _ induction =>
      rw [List.map_cons, List.map_cons, List.zipWith_cons_cons, ← induction, ← first.member]
      rfl

theorem map_accessor_of_serves {members : List (MarkedMember recordType)}
    {bindings : List (Binding recordType)}
    (serves : List.Forall₂ descriptor.Serves members bindings) :
    (bindings.map fun binding => descriptor.markedMember? binding.field.property) =
      members.map some := by
  induction serves with
  | nil => rfl
  | cons first _ induction => rw [List.map_cons, List.map_cons, first.accessor, induction]

/-- A mapper binds to an extracted definition. Its bindings are one for each marked
member, in order, and each of them serves the member that declared its field, if that
can be found by name. Where all can, no two fields share a member, and no marked member
is left out of the rows. -/
theorem bind_of_extract {options : ValidationOptions}
    {definition : CollectionDefinition Payload} {descriptor : RecordDescriptor recordType}
    (made : descriptor.extract options = .ok definition) :
    ∃ mapper, descriptor.bind (some definition) = .ok mapper ∧
      List.Forall₂ (fun marked binding => descriptor.Findable marked →
        descriptor.Serves marked binding) descriptor.markedMembers mapper.bindings ∧
      ((∀ marked ∈ descriptor.markedMembers, descriptor.Findable marked) →
        (mapper.bindings.map fun binding =>
          descriptor.markedMember? binding.field.property).Nodup ∧
        ∀ record, mapper.writeRow record = .object
          (definition.fields.zipWith (fun field marked =>
            (field.storage, record.encode marked.member)) descriptor.markedMembers)) := by
  have extracted := extracted_of_extract made
  rcases extracted.exists_bind with ⟨mapper, bound⟩
  have found := extracted.serves bound
  refine ⟨mapper, bound, found, ?_⟩
  intro findable
  have serves : List.Forall₂ descriptor.Serves descriptor.markedMembers mapper.bindings :=
    ((List.forall₂_and_left _ _).mpr ⟨findable, found⟩).imp fun _ _ parts => parts.2 parts.1
  constructor
  · rw [map_accessor_of_serves serves]
    have different : descriptor.markedMembers.Nodup :=
      descriptor.pairwise_markedMembers.imp fun less same => by
        rw [same] at less
        exact Nat.lt_irrefl _ less
    exact different.map (Option.some_injective _)
  · intro record
    rcases extracted.built with ⟨draft, built⟩
    rw [Mapper.writeRow_eq (Mapper.wellBound_of_bind built bound),
      map_entry_of_serves serves, fields_of_bind bound]

open Mapper.Bound (note)

/-! One member of a memo has no name, so it can still be found. -/

def memo : RecordDescriptor note where
  typeName := "Memo"
  declarations := [
    .plain .empty .unknown,
    .marked .empty .id ⟨"Key", .ofList [("name", "id")]⟩ none,
    .marked "remark" .remark ⟨"data", .empty⟩ (some (.fixed none))]

theorem bind_memo : ∃ (definition : CollectionDefinition Empty) (mapper : _),
    memo.extract { requireVector := false } = .ok definition ∧
      memo.bind (some definition) = .ok mapper ∧
      List.Forall₂ memo.Serves memo.markedMembers mapper.bindings ∧
      mapper.writeRow (.initial note) = .object [("id", .string .empty), ("remark", .null)] := by
  rcases (⟨_, rfl⟩ : ∃ definition : CollectionDefinition Empty,
    memo.extract { requireVector := false } = .ok definition) with ⟨definition, extracted⟩
  have findable : ∀ marked ∈ memo.markedMembers, memo.Findable marked := by decide
  rcases bind_of_extract extracted with ⟨mapper, bound, found, rows⟩
  refine ⟨definition, mapper, extracted, bound, ?_, ?_⟩
  · exact ((List.forall₂_and_left _ _).mpr ⟨findable, found⟩).imp fun _ _ parts =>
      parts.2 parts.1
  · rw [(rows findable).2]
    cases extracted
    rfl

/-! Where two have none, the fields of both go to the first. -/

def untitled : RecordDescriptor note where
  typeName := "Untitled"
  declarations := [
    .marked .empty .id ⟨"key", .ofList [("name", "id")]⟩ none,
    .marked .empty .remark ⟨"data", .ofList [("name", "content")]⟩ none]

theorem untitled_members_share : ∃ (definition : CollectionDefinition Empty) (mapper : _),
    untitled.extract { requireVector := false } = .ok definition ∧
      untitled.bind (some definition) = .ok mapper ∧
      ¬ List.Forall₂ untitled.Serves untitled.markedMembers mapper.bindings ∧
      ∀ record, mapper.writeRow record =
        .object [("id", record.encode .id), ("content", record.encode .id)] := by
  refine ⟨_, _, rfl, rfl, ?_, fun _ => rfl⟩
  intro serves
  rcases serves with _ | ⟨_, _ | ⟨second, _⟩⟩
  cases second.member

end RecordDescriptor

end CollectionSchema
