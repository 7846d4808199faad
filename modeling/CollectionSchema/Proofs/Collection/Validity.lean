import CollectionSchema.Collection.Validation
import Mathlib.Data.List.Forall2
import Mathlib.Data.List.Nodup

/-! # Valid field lists

The invariants of a field list without the order in which they are checked. The
survey keeps a list of accepted fields that has met every invariant so far, and
so accepts a list exactly if the whole of it meets them.
-/

namespace CollectionSchema

/-! ## Names and types -/

/-- A letter or underscore, and then letters, digits and underscores. -/
def Text.IsName (text : Text) : Prop :=
  ∃ first rest, text.bytes = first :: rest ∧
    (Ascii.isLetter first = true ∨ first = Ascii.underscore) ∧
    ∀ byte ∈ rest, Ascii.isLetter byte = true ∨ Ascii.isDigit byte = true ∨
      byte = Ascii.underscore

theorem Text.isIdentifier_iff {text : Text} : text.isIdentifier = true ↔ text.IsName := by
  rcases text with ⟨bytes⟩
  cases bytes with
  | nil => simp [isIdentifier, IsName]
  | cons first rest =>
      simp only [isIdentifier, IsName, Bool.and_eq_true, Bool.or_eq_true, beq_iff_eq,
        List.all_eq_true, List.cons.injEq, or_assoc]
      constructor
      · intro shape
        exact ⟨first, rest, ⟨rfl, rfl⟩, shape⟩
      · intro parts
        rcases parts with ⟨_, _, ⟨rfl, rfl⟩, shape⟩
        exact shape

namespace FieldType

def HoldsKey (type : FieldType) : Prop :=
  (∃ width, type = integer width) ∨ type = string ∨ type = unknown

def HoldsVector (type : FieldType) : Prop :=
  (∃ precision, type = vector precision ∨ type = vectorOrText precision ∨
    type = sparseVector precision) ∨ type = string ∨ type = unknown

theorem suitsKey_iff {type : FieldType} : type.suitsKey = true ↔ type.HoldsKey := by
  cases type <;> simp [suitsKey, isInteger, HoldsKey]

theorem suitsVector_iff {type : FieldType} : type.suitsVector = true ↔ type.HoldsVector := by
  cases type <;> simp [suitsVector, isVector, HoldsVector]

end FieldType

namespace Validation

/-! ## Invariants -/

/-- The names of the members that fields are bound to. -/
def boundProperties (fields : List Field) : List Text :=
  (fields.map (·.property)).filter (!·.isEmpty)

/-- The fields agree with one another, though there may be no key yet. -/
structure Consistent (options : ValidationOptions) (fields : List Field) : Prop where
  named : ∀ field ∈ fields, field.resolvedName ≠ .empty
  distinctNames : (fields.map Field.resolvedName).Nodup
  distinctProperties : (boundProperties fields).Nodup
  identifiers : options.strictNames = true → ∀ field ∈ fields, field.resolvedName.IsName
  oneKey : (fields.filter Field.isKey).length ≤ 1
  keyTypes : ∀ field ∈ fields, field.role = .key → field.type.HoldsKey
  vectors : ∀ field ∈ fields, field.role = .vector →
    field.dimensions ≠ 0 ∧ field.type.HoldsVector

structure Valid (options : ValidationOptions) (fields : List Field) : Prop where
  named : ∀ field ∈ fields, field.resolvedName ≠ .empty
  distinctNames : (fields.map Field.resolvedName).Nodup
  distinctProperties : (boundProperties fields).Nodup
  identifiers : options.strictNames = true → ∀ field ∈ fields, field.resolvedName.IsName
  key : ∃ key, fields.filter Field.isKey = [key] ∧ key.type.HoldsKey
  vectors : ∀ field ∈ fields, field.role = .vector →
    field.dimensions ≠ 0 ∧ field.type.HoldsVector
  hasVector : options.requireVector = true → ∃ field ∈ fields, field.role = .vector

theorem consistent_nil (options : ValidationOptions) : Consistent options [] := by
  constructor <;> simp [boundProperties]

/-- What a list keeps, every beginning of it keeps. -/
theorem Consistent.front {options : ValidationOptions} {front back : List Field}
    (consistent : Consistent options (front ++ back)) : Consistent options front where
  named field member := consistent.named field (List.mem_append_left _ member)
  distinctNames := by
    have names := consistent.distinctNames
    rw [List.map_append] at names
    exact (List.nodup_append.mp names).1
  distinctProperties := by
    have properties := consistent.distinctProperties
    rw [boundProperties, List.map_append, List.filter_append] at properties
    exact (List.nodup_append.mp properties).1
  identifiers strict field member :=
    consistent.identifiers strict field (List.mem_append_left _ member)
  oneKey := by
    have keys := consistent.oneKey
    rw [List.filter_append, List.length_append] at keys
    omega
  keyTypes field member := consistent.keyTypes field (List.mem_append_left _ member)
  vectors field member := consistent.vectors field (List.mem_append_left _ member)

/-! ## One field against those before it -/

open Classical in
/-- The rules for names, by what they ask for. -/
theorem nameFault?_eq (options : ValidationOptions) (before : List Field) (field : Field) :
    nameFault? options before field =
      if field.resolvedName = .empty then some (.unnamed before.length)
      else if options.strictNames = true ∧ ¬ field.resolvedName.IsName then
        some (.invalidName field.resolvedName)
      else if field.resolvedName ∈ before.map Field.resolvedName then
        some (.duplicateStorageName field.resolvedName)
      else if field.property ≠ .empty ∧ field.property ∈ before.map (·.property) then
        some (.duplicatePropertyName field.property)
      else none := by
  simp [nameFault?, ← Text.isIdentifier_iff]

theorem nameFault?_eq_none_iff {options : ValidationOptions} {before : List Field}
    {field : Field} :
    nameFault? options before field = none ↔
      field.resolvedName ≠ .empty ∧
      (options.strictNames = true → field.resolvedName.IsName) ∧
      field.resolvedName ∉ before.map Field.resolvedName ∧
      (field.property ≠ .empty → field.property ∉ before.map (·.property)) := by
  rw [nameFault?_eq]
  split_ifs with unnamed malformed taken bound
  · simp [unnamed]
  · simp [malformed]
  · simp [taken]
  · simp [bound]
  · simp_all

theorem roleFault?_eq_none_iff {before : List Field} {field : Field} :
    roleFault? before field = none ↔
      (field.role = .key → before.filter Field.isKey = [] ∧ field.type.HoldsKey) ∧
      (field.role = .vector → field.dimensions ≠ 0 ∧ field.type.HoldsVector) := by
  rw [← FieldType.suitsKey_iff, ← FieldType.suitsVector_iff, List.filter_eq_nil_iff,
    ← List.find?_eq_none]
  cases role : field.role with
  | key => cases found : before.find? Field.isKey <;> simp [roleFault?, role, found]
  | data => simp [roleFault?, role]
  | vector =>
      simp only [roleFault?, role]
      split <;> simp_all

theorem fault?_eq_none_iff {options : ValidationOptions} {before : List Field}
    {field : Field} :
    fault? options before field = none ↔
      nameFault? options before field = none ∧ roleFault? before field = none := by
  simp [fault?]

/-- An empty property name binds nothing, so it is not compared with others. -/
theorem boundProperties_concat_nodup_iff {before : List Field} {field : Field} :
    (boundProperties (before ++ [field])).Nodup ↔
      (field.property ≠ .empty → field.property ∉ before.map (·.property)) ∧
        (boundProperties before).Nodup := by
  rw [boundProperties, List.map_append, List.filter_append]
  by_cases unbound : field.property = .empty
  · simp [unbound, boundProperties]
  · have bound : ([field].map (·.property)).filter (!·.isEmpty) = [field.property] := by
      simp [unbound]
    rw [bound, ← List.concat_eq_append, List.nodup_concat]
    simp [unbound, boundProperties]

theorem oneKey_concat_iff {before : List Field} {field : Field} :
    ((before ++ [field]).filter Field.isKey).length ≤ 1 ↔
      (before.filter Field.isKey).length ≤ 1 ∧
        (field.role = .key → before.filter Field.isKey = []) := by
  by_cases key : field.role = .key
  · have keys : [field].filter Field.isKey = [field] := by simp [Field.isKey, key]
    simp only [List.filter_append, keys, List.length_append, List.length_singleton, key,
      true_implies, ← List.length_eq_zero_iff]
    omega
  · simp [List.filter_append, Field.isKey, key]

/-- One more field keeps a list consistent if the check of it finds no fault. -/
theorem consistent_concat_iff {options : ValidationOptions} {before : List Field}
    {field : Field} :
    Consistent options (before ++ [field]) ↔
      Consistent options before ∧ fault? options before field = none := by
  rw [fault?_eq_none_iff, nameFault?_eq_none_iff, roleFault?_eq_none_iff]
  have last : field ∈ before ++ [field] := by simp
  constructor
  · intro consistent
    have names := consistent.distinctNames
    rw [List.map_append, List.map_singleton, ← List.concat_eq_append, List.nodup_concat] at names
    refine ⟨consistent.front, ⟨consistent.named field last, ?_, names.1, ?_⟩, ?_, ?_⟩
    · exact fun strict => consistent.identifiers strict field last
    · exact (boundProperties_concat_nodup_iff.mp consistent.distinctProperties).1
    · intro key
      exact ⟨(oneKey_concat_iff.mp consistent.oneKey).2 key, consistent.keyTypes field last key⟩
    · exact consistent.vectors field last
  · intro parts
    rcases parts with ⟨consistent, ⟨named, identifier, freshName, freshProperty⟩, key, vector⟩
    have either : ∀ {Rule : Field → Prop}, (∀ other ∈ before, Rule other) → Rule field →
        ∀ other ∈ before ++ [field], Rule other := by
      intro Rule holds holdsLast other member
      rcases List.mem_append.mp member with earlier | equal
      · exact holds other earlier
      · exact List.mem_singleton.mp equal ▸ holdsLast
    exact {
      named := either consistent.named named
      distinctNames := by
        rw [List.map_append, List.map_singleton, ← List.concat_eq_append, List.nodup_concat]
        exact ⟨freshName, consistent.distinctNames⟩
      distinctProperties :=
        boundProperties_concat_nodup_iff.mpr ⟨freshProperty, consistent.distinctProperties⟩
      identifiers := fun strict => either (consistent.identifiers strict) (identifier strict)
      oneKey := oneKey_concat_iff.mpr ⟨consistent.oneKey, fun isKey => (key isKey).1⟩
      keyTypes := either consistent.keyTypes fun isKey => (key isKey).2
      vectors := either consistent.vectors vector }

/-! ## The whole list -/

theorem survey_fault?_eq_none_iff {options : ValidationOptions} {before : List Field}
    (fields : List Field) (consistent : Consistent options before) :
    (survey options before fields).fault? = none ↔ Consistent options (before ++ fields) := by
  induction fields generalizing before with
  | nil => simpa [survey] using consistent
  | cons field rest induction =>
      have shape : before ++ field :: rest = before ++ [field] ++ rest := by simp
      simp only [survey]
      cases fault : fault? options before field with
      | none =>
          rw [shape]
          exact induction (consistent_concat_iff.mpr ⟨consistent, fault⟩)
      | some error =>
          constructor
          · intro clean
            cases clean
          · intro whole
            rw [shape] at whole
            have clean := (consistent_concat_iff.mp whole.front).2
            rw [fault] at clean
            cases clean

theorem listFault?_eq_none_iff {options : ValidationOptions} {fields : List Field} :
    listFault? options fields = none ↔
      (∃ field ∈ fields, field.role = .key) ∧
        (options.requireVector = true → ∃ field ∈ fields, field.role = .vector) := by
  simp only [listFault?]
  split
  · rename_i keyless
    simp_all [Field.isKey]
  · rename_i keyed
    split <;> simp_all [Field.isKey, Field.isVector]

theorem valid_iff {options : ValidationOptions} {fields : List Field} :
    Valid options fields ↔ Consistent options fields ∧
      (∃ field ∈ fields, field.role = .key) ∧
        (options.requireVector = true → ∃ field ∈ fields, field.role = .vector) := by
  constructor
  · intro valid
    rcases valid.key with ⟨key, only, keyType⟩
    have keys : ∀ field, field ∈ fields ∧ field.role = .key ↔ field = key := by
      intro field
      have member : field ∈ fields.filter Field.isKey ↔ field = key := by
        rw [only, List.mem_singleton]
      simpa [List.mem_filter, Field.isKey] using member
    refine ⟨?_, ⟨key, (keys key).mpr rfl⟩, valid.hasVector⟩
    exact { valid with
      oneKey := by simp [only]
      keyTypes := fun field member isKey => (keys field).mp ⟨member, isKey⟩ ▸ keyType }
  · intro parts
    rcases parts with ⟨consistent, ⟨key, member, isKey⟩, hasVector⟩
    have listed : key ∈ fields.filter Field.isKey := by
      simp [List.mem_filter, member, Field.isKey, isKey]
    have only : fields.filter Field.isKey = [key] := by
      have one := consistent.oneKey
      match found : fields.filter Field.isKey with
      | [] => simp [found] at listed
      | [first] => simp_all
      | _ :: _ :: _ => simp [found] at one
    exact { consistent with
      key := ⟨key, only, consistent.keyTypes key member isKey⟩
      hasVector }

theorem check_fault?_eq_none_iff {options : ValidationOptions} {fields : List Field} :
    (check options fields).fault? = none ↔ Valid options fields := by
  have surveyed := survey_fault?_eq_none_iff fields (consistent_nil options)
  rw [List.nil_append] at surveyed
  rw [valid_iff, ← surveyed, ← listFault?_eq_none_iff]
  simp [check]

/-! ## The position of the key -/

theorem keyIndex?_isSome_iff {fields : List Field} :
    (keyIndex? fields).isSome = true ↔ ∃ field ∈ fields, field.role = .key := by
  simp [keyIndex?, List.findIdx?_isSome, Field.isKey]

theorem Valid.exists_keyIndex {options : ValidationOptions} {fields : List Field}
    (valid : Valid options fields) : ∃ index, keyIndex? fields = some index := by
  rcases valid.key with ⟨key, only, _⟩
  have member : key ∈ fields ∧ key.isKey = true := by
    rw [← List.mem_filter, only]
    exact List.mem_singleton_self key
  have isKey : key.role = .key := by simpa [Field.isKey] using member.2
  exact Option.isSome_iff_exists.mp (keyIndex?_isSome_iff.mpr ⟨key, member.1, isKey⟩)

/-- The only key of a list stands at its key position. -/
theorem getElem?_keyIndex {fields : List Field} {key : Field} {index : Nat}
    (only : fields.filter Field.isKey = [key]) (found : keyIndex? fields = some index) :
    fields[index]? = some key := by
  rcases List.findIdx?_eq_some_iff_getElem.mp found with ⟨inRange, isKey, _⟩
  have listed : fields[index] ∈ fields.filter Field.isKey :=
    List.mem_filter.mpr ⟨List.getElem_mem inRange, isKey⟩
  rw [only, List.mem_singleton] at listed
  rw [List.getElem?_eq_getElem inRange, listed]

/-! ## Fields that are checked alike -/

/-- Two fields do not differ in what the invariants speak of. -/
structure Alike (field other : Field) : Prop where
  role : other.role = field.role
  property : other.property = field.property
  name : other.resolvedName = field.resolvedName
  type : other.type = field.type
  dimensions : field.role = .vector → other.dimensions = field.dimensions

theorem alike_resolve (field : Field) : Alike field field.resolve where
  role := rfl
  property := rfl
  name := field.resolvedName_resolve
  type := rfl
  dimensions _ := rfl

theorem Alike.symm {field other : Field} (alike : Alike field other) : Alike other field where
  role := alike.role.symm
  property := alike.property.symm
  name := alike.name.symm
  type := alike.type.symm
  dimensions vector := (alike.dimensions (alike.role ▸ vector)).symm

section Lists

variable {fields others : List Field}

theorem map_eq_of_alike {Part : Type} {part : Field → Part}
    (same : ∀ {field other}, Alike field other → part other = part field)
    (alike : List.Forall₂ Alike fields others) : others.map part = fields.map part := by
  induction alike with
  | nil => rfl
  | cons first _ induction => rw [List.map_cons, List.map_cons, same first, induction]

theorem exists_alike (alike : List.Forall₂ Alike fields others) {other : Field}
    (member : other ∈ others) : ∃ field ∈ fields, Alike field other := by
  induction alike with
  | nil => cases member
  | cons first _ induction =>
      rcases List.mem_cons.mp member with equal | later
      · exact ⟨_, List.mem_cons_self, equal ▸ first⟩
      · rcases induction later with ⟨field, listed, same⟩
        exact ⟨field, List.mem_cons_of_mem _ listed, same⟩

theorem filter_isKey_of_alike (alike : List.Forall₂ Alike fields others) :
    List.Forall₂ Alike (fields.filter Field.isKey) (others.filter Field.isKey) := by
  induction alike with
  | nil => exact .nil
  | @cons field other _ _ first _ induction =>
      by_cases key : field.role = .key
      · have otherKey : other.role = .key := first.role.trans key
        simpa [Field.isKey, key, otherKey] using And.intro first induction
      · have otherNot : ¬ other.role = .key := fun isKey => key (first.role.symm.trans isKey)
        simpa [Field.isKey, key, otherNot] using induction

theorem keyIndex?_of_alike (alike : List.Forall₂ Alike fields others) :
    keyIndex? others = keyIndex? fields := by
  induction alike with
  | nil => rfl
  | cons first _ induction =>
      simp only [keyIndex?] at induction ⊢
      rw [List.findIdx?_cons, List.findIdx?_cons, induction]
      simp [Field.isKey, first.role]

theorem Valid.of_alike {options : ValidationOptions} (valid : Valid options fields)
    (alike : List.Forall₂ Alike fields others) : Valid options others where
  named other member := by
    rcases exists_alike alike member with ⟨field, listed, same⟩
    exact same.name ▸ valid.named field listed
  distinctNames := by
    rw [map_eq_of_alike Alike.name alike]
    exact valid.distinctNames
  distinctProperties := by
    rw [boundProperties, map_eq_of_alike Alike.property alike]
    exact valid.distinctProperties
  identifiers strict other member := by
    rcases exists_alike alike member with ⟨field, listed, same⟩
    exact same.name ▸ valid.identifiers strict field listed
  key := by
    rcases valid.key with ⟨key, only, keyType⟩
    have keys := filter_isKey_of_alike alike
    rw [only] at keys
    rcases List.forall₂_cons_left_iff.mp keys with ⟨other, rest, same, none, otherOnly⟩
    rw [List.forall₂_nil_left_iff.mp none] at otherOnly
    exact ⟨other, otherOnly, same.type ▸ keyType⟩
  vectors other member vector := by
    rcases exists_alike alike member with ⟨field, listed, same⟩
    have fieldVector := same.role ▸ vector
    rw [same.type, same.dimensions fieldVector]
    exact valid.vectors field listed fieldVector
  hasVector required := by
    rcases valid.hasVector required with ⟨field, listed, vector⟩
    have back := (alike.imp fun _ _ => Alike.symm).flip
    rcases exists_alike back listed with ⟨other, otherListed, same⟩
    exact ⟨other, otherListed, same.role ▸ vector⟩

end Lists

section Changed

variable {change : Field → Field} {fields : List Field}

theorem alike_map (alike : ∀ field ∈ fields, Alike field (change field)) :
    List.Forall₂ Alike fields (fields.map change) :=
  List.forall₂_map_right_iff.mpr (List.forall₂_same.mpr alike)

theorem keyIndex?_map (alike : ∀ field ∈ fields, Alike field (change field)) :
    keyIndex? (fields.map change) = keyIndex? fields :=
  keyIndex?_of_alike (alike_map alike)

/-- Changes that the invariants do not speak of keep a list valid. -/
theorem valid_map_iff {options : ValidationOptions}
    (alike : ∀ field ∈ fields, Alike field (change field)) :
    Valid options (fields.map change) ↔ Valid options fields := by
  have forward := alike_map alike
  have back := (forward.imp fun _ _ => Alike.symm).flip
  exact ⟨fun valid => valid.of_alike back, fun valid => valid.of_alike forward⟩

end Changed

end Validation

/-! ## Validation -/

theorem validate_eq_ok_iff {options : ValidationOptions} {fields : List Field}
    {index : Fin fields.length} :
    validate options fields = .ok index ↔
      Validation.Valid options fields ∧ Validation.keyIndex? fields = some index.val := by
  rw [← Validation.check_fault?_eq_none_iff]
  simp only [validate]
  split
  · rename_i fault
    simp [fault]
  · rename_i clean
    split
    · rename_i found
      simp [clean, found, Fin.ext_iff]
    · rename_i missing
      simp [missing]

end CollectionSchema
