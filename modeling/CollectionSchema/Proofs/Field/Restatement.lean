import CollectionSchema.Proofs.Dictionary
import CollectionSchema.Proofs.Field.Extraction
import CollectionSchema.Proofs.Text.Numeral

/-! # Markings restated as documents

A marking and a document describe fields in two ways. What a marking says can be written
as the members of a document, an entry as a member, and the document then reads as the
field of the marking.
-/

namespace CollectionSchema

/-! ## Flags -/

/-- Three words stand for each flag, in any case. -/
inductive Text.DenotesFlag (text : Text) : Bool → Prop
  | yes (word : text.lower ∈ (["true", "1", "yes"] : List Text)) : DenotesFlag text true
  | no (word : text.lower ∈ (["false", "0", "no"] : List Text)) : DenotesFlag text false

theorem Text.flag?_eq_some_iff {text : Text} {flag : Bool} :
    text.flag? = some flag ↔ text.DenotesFlag flag := by
  have apart : ∀ word ∈ (["false", "0", "no"] : List Text),
      word ∉ (["true", "1", "yes"] : List Text) := by decide
  constructor
  · intro read
    rw [flag?] at read
    split at read
    · next word =>
        cases read
        exact .yes word
    · split at read
      · next word =>
          cases read
          exact .no word
      · cases read
  · intro denotes
    cases denotes with
    | yes word => rw [flag?, if_pos word]
    | no word => rw [flag?, if_neg (apart _ word), if_pos word]

/-! ## Entries and members -/

namespace Attribute

/-- The keys of entries whose texts are used as they stand. -/
def tokenKeys : List Text := ["name", "type", "indexKind", "distanceFunction"]

/-- The keys of entries that only fields of the role have. -/
def ownKeys : Role → List Text
  | .key => []
  | .data => dataKeys
  | .vector => vectorKeys

/-- The name that documents have for the key of an entry. -/
def memberName (key : Text) : Text := if key = "name" then "storageName" else key

/-- A value that says in a document what the text of an entry says in a marking. -/
inductive Restates (key text : Text) : Json → Prop
  | token (listed : key ∈ tokenKeys) : Restates key text (.string text)
  | dimensions {count : Int64} (named : key = "dimensions")
      (denotes : text.untilNul.Denotes count.toInt) : Restates key text (.int count)
  | flag {flag : Bool} (listed : key ∈ dataKeys) (denotes : text.DenotesFlag flag) :
      Restates key text (.bool flag)

/-- The member for an entry, under the name of its key. -/
def RestatedBy (entry : Text × Text) (member : Text × Json) : Prop :=
  member.1 = memberName entry.1 ∧ Restates entry.1 entry.2 member.2

theorem memberName_inj : ∀ key ∈ keys, ∀ other ∈ keys,
    memberName key = memberName other → key = other := by decide

theorem memberName_ne : ∀ key ∈ keys,
    memberName key ≠ "role" ∧ memberName key ≠ "propertyName" := by decide

section

variable {role : Role} {key text : Text} {told : Attribute} {value : Json}

theorem Tells.mem_keys (tells : Tells role key text told) : key ∈ keys := by
  cases tells <;> decide

theorem Tells.role_eq {owner : Role} (tells : Tells role key text told)
    (listed : key ∈ ownKeys owner) : role = owner := by
  by_contra other
  have refused : ∃ cause, Refused role key text cause := by
    cases owner with
    | key => cases listed
    | data => exact ⟨_, .offData listed other⟩
    | vector => exact ⟨_, .offVector listed other⟩
  rcases refused with ⟨cause, refused⟩
  cases refused.read_eq.symm.trans tells.read_eq

theorem Tells.exists_type (tells : Tells role "type" text told) :
    ∃ known, FieldType.parse? role text = some known := by
  generalize key : Text.ofString "type" = other at tells
  cases tells with
  | type parsed => exact ⟨_, parsed⟩
  | _ => simp at key

/-- What an entry tells can be said in a document. -/
theorem Tells.exists_restates (tells : Tells role key text told) :
    ∃ value, Restates key text value := by
  cases tells with
  | dimensions _ parsed _ => exact ⟨_, .dimensions rfl (Text.integer?_eq_some_iff.mp parsed)⟩
  | fullTextIndexed _ parsed =>
      exact ⟨_, .flag (by decide) (Text.flag?_eq_some_iff.mp parsed)⟩
  | filterable _ parsed => exact ⟨_, .flag (by decide) (Text.flag?_eq_some_iff.mp parsed)⟩
  | _ => exact ⟨_, .token (by decide)⟩

theorem Restates.eq_string (restates : Restates key text value) (listed : key ∈ tokenKeys) :
    value = .string text := by
  have apart : ∀ key ∈ tokenKeys, key ≠ "dimensions" ∧ key ∉ dataKeys := by decide
  cases restates with
  | token => rfl
  | dimensions named => exact absurd named (apart key listed).1
  | flag other => exact absurd other (apart key listed).2

theorem Restates.exists_count (restates : Restates "dimensions" text value) :
    ∃ count, text.integer? = some count ∧ value = .int count := by
  cases restates with
  | token listed => exact absurd listed (by decide)
  | dimensions _ denotes => exact ⟨_, Text.integer?_eq_some_iff.mpr denotes, rfl⟩
  | flag listed => exact absurd listed (by decide)

theorem Restates.exists_flag (restates : Restates key text value) (listed : key ∈ dataKeys) :
    ∃ flag, text.flag? = some flag ∧ value = .bool flag := by
  have apart : ∀ key ∈ dataKeys, key ≠ "dimensions" ∧ key ∉ tokenKeys := by decide
  cases restates with
  | token other => exact absurd other (apart key listed).2
  | dimensions named => exact absurd named (apart key listed).1
  | flag _ denotes => exact ⟨_, Text.flag?_eq_some_iff.mpr denotes, rfl⟩

end

end Attribute

namespace Marking.Documented

variable {marking : Marking} {role : Role} {key : Text}

theorem mem_keys (documented : marking.Documented role)
    (listed : key ∈ Dictionary.keys marking.metadata.entries) : key ∈ Attribute.keys := by
  rcases List.mem_map.mp listed with ⟨entry, member, rfl⟩
  rcases documented.entries entry member with ⟨_, tells⟩
  exact tells.mem_keys

theorem get?_eq_none_of_ne (documented : marking.Documented role) {owner : Role}
    (other : role ≠ owner) (listed : key ∈ Attribute.ownKeys owner) :
    marking.metadata.get? key = none := by
  rw [Option.eq_none_iff_forall_not_mem]
  intro text given
  rcases documented.exists_told given with ⟨_, tells⟩
  exact other (tells.role_eq listed)

/-- What an entry of one role tells is told of fields of that role only. -/
theorem own_eq_ite (documented : marking.Documented role) {Part : Type}
    (part : Option Text → Part) {owner : Role} (listed : key ∈ Attribute.ownKeys owner) :
    part (marking.metadata.get? key) =
      if role = owner then part (marking.metadata.get? key) else part none := by
  by_cases own : role = owner
  · rw [if_pos own]
  · rw [if_neg own, documented.get?_eq_none_of_ne own listed]

end Marking.Documented

/-! ## Documents -/

theorem Attribute.eq_map_string_of_rel {key : Text} {given : Option Text} {held : Option Json}
    (listed : key ∈ tokenKeys) (found : Option.Rel (Restates key) given held) :
    held = given.map .string := by
  cases found with
  | none => rfl
  | some restates => exact congrArg some (restates.eq_string listed)

namespace Json

variable {json : Json} {key name : Text} {given : Option Text}

theorem readsText_of_restates (listed : key ∈ Attribute.tokenKeys)
    (found : Option.Rel (Attribute.Restates key) given (json.member? name)) :
    json.ReadsText name (given.getD .empty) := by
  rw [ReadsText, Attribute.eq_map_string_of_rel listed found]
  cases given <;> simp

theorem readsFlag_of_restates (listed : key ∈ Attribute.dataKeys)
    (found : Option.Rel (Attribute.Restates key) given (json.member? name)) :
    json.ReadsFlag name ((given.bind Text.flag?).getD false) := by
  rw [ReadsFlag]
  generalize json.member? name = held at found
  cases found with
  | none => exact .inr ⟨rfl, rfl⟩
  | some restates =>
      rcases restates.exists_flag listed with ⟨flag, reads, rfl⟩
      rw [Option.bind_some, reads]
      exact .inl rfl

end Json

theorem Field.describesDimensions_of_restates {json : Json} {given : Option Text}
    (found : Option.Rel (Attribute.Restates "dimensions") given (json.member? "dimensions"))
    (positive : ∀ text, given = some text →
      ∃ count, text.integer? = some count ∧ 0 < count.toInt) :
    DescribesDimensions json (((given.bind Text.integer?).map Int64.toUInt64).getD 0) := by
  rw [DescribesDimensions]
  generalize json.member? "dimensions" = held at found
  cases found with
  | none => exact .inl ⟨rfl, rfl⟩
  | some restates =>
      rcases positive _ rfl with ⟨count, parsed, positive⟩
      rcases restates.exists_count with ⟨other, again, rfl⟩
      cases parsed.symm.trans again
      rw [Option.bind_some, parsed]
      exact .inr ⟨count, rfl, positive, rfl⟩

namespace FieldDescriptor

/-- The members that any marking is stated with. -/
def heading (descriptor : FieldDescriptor) (marking : Marking) : List (Text × Json) :=
  [("role", .string marking.role), ("propertyName", .string descriptor.name)]

/-- The members state the role token, the name and every entry of the marking, in any
order. -/
def Restated (descriptor : FieldDescriptor) (marking : Marking)
    (members : List (Text × Json)) : Prop :=
  ∃ stated, List.Forall₂ Attribute.RestatedBy marking.metadata.entries stated ∧
    members.Perm (descriptor.heading marking ++ stated)

/-- What is found in a document that states a marking. -/
structure States (descriptor : FieldDescriptor) (marking : Marking) (json : Json) : Prop where
  role : json.member? "role" = some (.string marking.role)
  property : json.member? "propertyName" = some (.string descriptor.name)
  storage : Option.Rel (Attribute.Restates "name") (marking.metadata.get? "name")
    (json.member? "storageName")
  entry : ∀ key ∈ Attribute.keys, key ≠ "name" →
    Option.Rel (Attribute.Restates key) (marking.metadata.get? key) (json.member? key)

variable {descriptor : FieldDescriptor} {marking : Marking} {role : Role}
  {members : List (Text × Json)} {json : Json} {token : Text} {field : Field}

theorem exists_restated (documented : marking.Documented role) :
    ∃ members, descriptor.Restated marking members := by
  have each : ∃ stated, List.Forall₂ Attribute.RestatedBy marking.metadata.entries stated := by
    rw [exists_forall₂_iff]
    intro entry member
    rcases documented.entries entry member with ⟨_, tells⟩
    rcases tells.exists_restates with ⟨value, restates⟩
    exact ⟨(_, value), rfl, restates⟩
  rcases each with ⟨stated, each⟩
  exact ⟨_, stated, each, .refl _⟩

section Members

variable {stated : List (Text × Json)}

/-- No two members have one name. -/
theorem wellFormed_heading_append (documented : marking.Documented role)
    (each : List.Forall₂ Attribute.RestatedBy marking.metadata.entries stated) :
    Dictionary.WellFormed (descriptor.heading marking ++ stated) := by
  have names : Dictionary.keys stated =
      (Dictionary.keys marking.metadata.entries).map Attribute.memberName :=
    Dictionary.keys_eq_map_of_forall₂ each
  have apart : ∀ name ∈ Dictionary.keys stated, name ≠ "role" ∧ name ≠ "propertyName" := by
    intro name listed
    rw [names] at listed
    rcases List.mem_map.mp listed with ⟨key, present, rfl⟩
    exact Attribute.memberName_ne key (documented.mem_keys present)
  have distinct : (Dictionary.keys stated).Nodup := by
    rw [names]
    refine List.Nodup.map_on ?_ marking.metadata.wellFormed
    intro key listed other member
    exact Attribute.memberName_inj key (documented.mem_keys listed) other
      (documented.mem_keys member)
  change (("role" : Text) :: "propertyName" :: Dictionary.keys stated).Nodup
  rw [List.nodup_cons, List.nodup_cons, List.mem_cons, not_or]
  exact ⟨⟨by decide, fun listed => (apart _ listed).1 rfl⟩,
    fun listed => (apart _ listed).2 rfl, distinct⟩

/-- An entry is found under the name of its key, and what is not given is not found. -/
theorem rel_get?_heading_append (documented : marking.Documented role)
    (each : List.Forall₂ Attribute.RestatedBy marking.metadata.entries stated) {key : Text}
    (listed : key ∈ Attribute.keys) :
    Option.Rel (Attribute.Restates key) (marking.metadata.get? key)
      (Dictionary.get? (Attribute.memberName key) (descriptor.heading marking ++ stated)) := by
  have others := Attribute.memberName_ne key listed
  have absent : Dictionary.get? (Attribute.memberName key) (descriptor.heading marking) =
      none := by
    simp [heading, Dictionary.get?, others.1.symm, others.2.symm]
  rw [Dictionary.get?_append, absent, Option.none_or]
  refine Dictionary.rel_get?_of_forall₂ each ?_
  intro other member same
  exact Attribute.memberName_inj other (documented.mem_keys member) key listed same

end Members

/-- The members are found wherever they stand. -/
theorem states_of_restated (documented : marking.Documented role)
    (restated : descriptor.Restated marking members) :
    descriptor.States marking (.object members) := by
  rcases restated with ⟨stated, each, perm⟩
  have found (name : Text) : (Json.object members).member? name =
      Dictionary.get? name (descriptor.heading marking ++ stated) :=
    (Dictionary.get?_eq_of_perm (wellFormed_heading_append documented each) perm.symm name).symm
  have entry : ∀ key ∈ Attribute.keys, Option.Rel (Attribute.Restates key)
      (marking.metadata.get? key)
      ((Json.object members).member? (Attribute.memberName key)) := by
    intro key listed
    rw [found]
    exact rel_get?_heading_append documented each listed
  constructor
  · exact found "role"
  · exact found "propertyName"
  · exact entry "name" (by decide)
  · intro key listed other
    have member := entry key listed
    rwa [Attribute.memberName, if_neg other] at member

namespace States

variable (documented : marking.Documented role) (states : descriptor.States marking json)
include documented states

/-- Texts that only vector fields have. -/
theorem describesText {key : Text} (onVector : key ∈ Attribute.ownKeys .vector)
    (listed : key ∈ Attribute.tokenKeys) :
    ∃ text, json.ReadsText key text ∧
      (marking.metadata.get? key).getD .empty = if role = .vector then text else .empty := by
  have apart : ∀ key ∈ Attribute.ownKeys .vector, key ∈ Attribute.keys ∧ key ≠ "name" := by decide
  have found := states.entry key (apart key onVector).1 (apart key onVector).2
  exact ⟨_, Json.readsText_of_restates listed found, documented.own_eq_ite (·.getD .empty) onVector⟩

/-- Flags that only data fields have. -/
theorem describesFlag {key : Text} (onData : key ∈ Attribute.ownKeys .data) :
    ∃ flag, json.ReadsFlag key flag ∧
      ((marking.metadata.get? key).bind Text.flag?).getD false =
        if role = .data then flag else false := by
  have apart : ∀ key ∈ Attribute.ownKeys .data, key ∈ Attribute.keys ∧ key ≠ "name" := by decide
  have found := states.entry key (apart key onData).1 (apart key onData).2
  exact ⟨_, Json.readsFlag_of_restates onData found,
    documented.own_eq_ite (fun given => (given.bind Text.flag?).getD false) onData⟩

theorem describesDimensions :
    if role = .vector then
      Field.DescribesDimensions json
        ((((marking.metadata.get? "dimensions").bind Text.integer?).map Int64.toUInt64).getD 0)
    else
      (((marking.metadata.get? "dimensions").bind Text.integer?).map Int64.toUInt64).getD 0 =
        0 := by
  by_cases vector : role = .vector
  · rw [if_pos vector]
    exact Field.describesDimensions_of_restates
      (states.entry "dimensions" (by decide) (by decide)) fun _ => documented.exists_count
  · have onVector : ("dimensions" : Text) ∈ Attribute.ownKeys .vector := by decide
    rw [if_neg vector, documented.get?_eq_none_of_ne vector onVector]
    rfl

theorem describesType (typed : marking.metadata.get? "type" = some token)
    (plain : descriptor.declaredType.isVectorOrText = false) :
    Field.DescribesType json role (descriptor.markedField role marking.metadata).type := by
  rcases documented.exists_told typed with ⟨_, tells⟩
  rcases tells.exists_type with ⟨known, parsed⟩
  have member := Attribute.eq_map_string_of_rel (by decide)
    (states.entry "type" (by decide) (by decide))
  rw [typed] at member
  refine .inr ⟨token, member, ?_⟩
  simp [markedField, typed, plain, parsed]

/-- A document that states a marking with a type entry describes the field of the marking. -/
theorem describes (typed : marking.metadata.get? "type" = some token)
    (plain : descriptor.declaredType.isVectorOrText = false) :
    Field.Describes json
      { descriptor.markedField role marking.metadata with default? := none } where
  role := ⟨_, states.role, Role.parse?_eq_some_iff.mpr documented.token⟩
  property := .inl states.property
  storage := Json.readsText_of_restates (by decide) states.storage
  type := states.describesType documented typed plain
  indexKind := states.describesText documented (by decide) (by decide)
  distanceFunction := states.describesText documented (by decide) (by decide)
  dimensions := states.describesDimensions documented
  fullTextIndexed := states.describesFlag documented (by decide)
  filterable := states.describesFlag documented (by decide)
  default := rfl

end States

/-- A marking with a type entry can be stated as a document, and however that is done, the
document reads as the field of the marking, but for its default. A declared type that
holds a vector or its text is the exception, as it has a part in the type of the field. -/
theorem restated_reads_alike (marked : descriptor.marking? = some marking)
    (typed : marking.metadata.get? "type" = some token)
    (plain : descriptor.declaredType.isVectorOrText = false)
    (made : descriptor.field = .ok field) :
    (∃ members, descriptor.Restated marking members) ∧
      ∀ members, descriptor.Restated marking members →
        Field.ofJson (.object members) = .ok { field with default? := none } := by
  rcases field_eq_ok_iff.mp made with ⟨_, role, same, documented, rfl⟩
  cases marked.symm.trans same
  refine ⟨exists_restated documented, ?_⟩
  intro members restated
  have states := states_of_restated documented restated
  exact Field.ofJson_eq_ok_iff.mpr (states.describes documented typed plain)

/-! Tokens are read in any case, and leading zeros are not written again. -/

def summary : FieldDescriptor where
  name := "summary"
  declaredType := .vector .double
  marking? := some ⟨"Vector", .ofList [("type", "Float"), ("dimensions", "007"), ("name", "s")]⟩
  default? := some (.fixed .null)

def summaryMembers : List (Text × Json) :=
  [("type", .string "Float"), ("storageName", .string "s"), ("dimensions", .int 7),
    ("propertyName", .string "summary"), ("role", .string "Vector")]

theorem restated_reads_alike_summary : ∃ field, summary.field = .ok field ∧
    field.type = .vector .single ∧ field.dimensions = 7 ∧
    Field.ofJson (.object summaryMembers) = .ok { field with default? := none } := by
  rcases (⟨_, rfl⟩ : ∃ field, summary.field = .ok field) with ⟨field, made⟩
  have alike := restated_reads_alike (rfl : summary.marking? = _) rfl rfl made
  have read := alike.2 summaryMembers
    ⟨[("dimensions", .int 7), ("storageName", .string "s"), ("type", .string "Float")],
      .cons ⟨rfl, .dimensions rfl (Text.integer?_eq_some_iff.mp (by decide))⟩
        (.cons ⟨rfl, .token (by decide)⟩ (.cons ⟨rfl, .token (by decide)⟩ .nil)),
      (List.reverse_perm summaryMembers).symm⟩
  refine ⟨field, made, ?_, ?_, read⟩
  · cases made
    rfl
  · cases made
    rfl

end FieldDescriptor

end CollectionSchema
