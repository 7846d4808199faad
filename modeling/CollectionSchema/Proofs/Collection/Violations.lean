import CollectionSchema.Proofs.Collection.Validity
import Mathlib.Data.Nat.Find

/-! # The first violation

Fields are checked in order, and each by one rule after the other. The first field that
breaks a rule decides, by the first rule that it breaks, and nothing after it is looked at.
-/

namespace CollectionSchema

/-- The place of an error among those that one field can be at fault for. -/
def ValidationError.rank : ValidationError → Nat
  | unnamed _ => 0
  | invalidName _ => 1
  | duplicateStorageName _ => 2
  | duplicatePropertyName _ => 3
  | multipleKeys _ _ => 4
  | keyType _ _ => 5
  | missingDimensions _ => 6
  | vectorType _ _ => 7
  | noKey | noVector | unpairedHooks | hooksOutsideContainerMode => 8

namespace Validation

/-! ## Rules for one field -/

/-- The field breaks a rule with respect to the fields before it, and the error says so. -/
inductive Breaks (options : ValidationOptions) (before : List Field) (field : Field) :
    ValidationError → Prop
  | unnamed (nameless : field.resolvedName = .empty) :
      Breaks options before field (.unnamed before.length)
  | invalidName (strict : options.strictNames = true) (malformed : ¬ field.resolvedName.IsName) :
      Breaks options before field (.invalidName field.resolvedName)
  | duplicateStorageName (taken : field.resolvedName ∈ before.map Field.resolvedName) :
      Breaks options before field (.duplicateStorageName field.resolvedName)
  | duplicatePropertyName (bound : field.property ≠ .empty)
      (taken : field.property ∈ before.map (·.property)) :
      Breaks options before field (.duplicatePropertyName field.property)
  | multipleKeys {first : Field} (key : field.role = .key) (earlier : first ∈ before)
      (firstKey : first.role = .key) :
      Breaks options before field (.multipleKeys first.resolvedName field.resolvedName)
  | keyType (key : field.role = .key) (unsuited : ¬ field.type.HoldsKey) :
      Breaks options before field (.keyType field.resolvedName field.type)
  | missingDimensions (vector : field.role = .vector) (missing : field.dimensions = 0) :
      Breaks options before field (.missingDimensions field.resolvedName)
  | vectorType (vector : field.role = .vector) (unsuited : ¬ field.type.HoldsVector) :
      Breaks options before field (.vectorType field.resolvedName field.type)

/-- The error is that of the first rule which the field breaks. -/
structure BreaksFirst (options : ValidationOptions) (before : List Field) (field : Field)
    (error : ValidationError) : Prop where
  broken : Breaks options before field error
  least : ∀ other, Breaks options before field other → error.rank ≤ other.rank

section Rules

variable {options : ValidationOptions} {before : List Field} {field : Field}
  {error other : ValidationError}

theorem breaksFirst_of_nameFault? (failed : nameFault? options before field = some error) :
    BreaksFirst options before field error := by
  rw [nameFault?_eq] at failed
  split_ifs at failed with nameless malformed taken bound
  · cases failed
    exact ⟨.unnamed nameless, fun _ _ => Nat.zero_le _⟩
  · cases failed
    refine ⟨.invalidName malformed.1 malformed.2, ?_⟩
    intro other broken
    cases broken <;> simp_all [ValidationError.rank]
  · cases failed
    refine ⟨.duplicateStorageName taken, ?_⟩
    intro other broken
    cases broken <;> simp_all [ValidationError.rank]
  · cases failed
    refine ⟨.duplicatePropertyName bound.1 bound.2, ?_⟩
    intro other broken
    cases broken <;> simp_all [ValidationError.rank]

/-- A field whose name is in order is at fault in its role only. -/
theorem Breaks.four_le_rank (named : nameFault? options before field = none)
    (broken : Breaks options before field error) : 4 ≤ error.rank := by
  rcases nameFault?_eq_none_iff.mp named with ⟨named, identifier, freshName, freshProperty⟩
  cases broken with
  | unnamed nameless => exact absurd nameless named
  | invalidName strict malformed => exact absurd (identifier strict) malformed
  | duplicateStorageName taken => exact absurd taken freshName
  | duplicatePropertyName bound taken => exact absurd taken (freshProperty bound)
  | _ => simp [ValidationError.rank]

theorem breaksFirst_of_roleFault? (named : nameFault? options before field = none)
    (failed : roleFault? before field = some error) : BreaksFirst options before field error := by
  have ofRole : ∀ {other}, Breaks options before field other → 4 ≤ other.rank :=
    fun broken => broken.four_le_rank named
  cases role : field.role with
  | data => simp [roleFault?, role] at failed
  | key =>
      cases found : before.find? Field.isKey with
      | some first =>
          simp only [roleFault?, role, found, Option.some.injEq] at failed
          subst failed
          have firstKey : first.role = .key := by simpa [Field.isKey] using List.find?_some found
          exact ⟨.multipleKeys role (List.mem_of_find?_eq_some found) firstKey,
            fun _ => ofRole⟩
      | none =>
          simp only [roleFault?, role, found] at failed
          split_ifs at failed with suited
          cases failed
          rw [FieldType.suitsKey_iff] at suited
          refine ⟨.keyType role suited, ?_⟩
          intro other broken
          have later := ofRole broken
          cases broken <;> simp_all [ValidationError.rank, Field.isKey]
  | vector =>
      simp only [roleFault?, role, FieldType.suitsVector_iff] at failed
      split_ifs at failed with missing suited
      · cases failed
        refine ⟨.missingDimensions role missing, ?_⟩
        intro other broken
        have later := ofRole broken
        cases broken <;> simp_all [ValidationError.rank]
      · cases failed
        rw [FieldType.suitsVector_iff] at suited
        refine ⟨.vectorType role suited, ?_⟩
        intro other broken
        have later := ofRole broken
        cases broken <;> simp_all [ValidationError.rank]

theorem breaksFirst_of_fault? (failed : fault? options before field = some error) :
    BreaksFirst options before field error := by
  rw [fault?, Option.or_eq_some_iff] at failed
  rcases failed with failed | ⟨named, failed⟩
  · exact breaksFirst_of_nameFault? failed
  · exact breaksFirst_of_roleFault? named failed

theorem fault?_eq_none_iff_not_breaks :
    fault? options before field = none ↔ ∀ error, ¬ Breaks options before field error := by
  constructor
  · intro clean error broken
    rcases fault?_eq_none_iff.mp clean with ⟨named, placed⟩
    have role := broken.four_le_rank named
    rcases roleFault?_eq_none_iff.mp placed with ⟨key, vector⟩
    cases broken with
    | multipleKeys isKey earlier firstKey =>
        have none := List.filter_eq_nil_iff.mp (key isKey).1 _ earlier
        exact none (by simpa [Field.isKey] using firstKey)
    | keyType isKey unsuited => exact unsuited (key isKey).2
    | missingDimensions isVector missing => exact (vector isVector).1 missing
    | vectorType isVector unsuited => exact unsuited (vector isVector).2
    | _ => simp [ValidationError.rank] at role
  · intro clean
    cases failed : fault? options before field with
    | none => rfl
    | some error => exact absurd (breaksFirst_of_fault? failed).broken (clean error)

theorem eq_of_oneKey (oneKey : (before.filter Field.isKey).length ≤ 1) {first second : Field}
    (firstListed : first ∈ before) (firstKey : first.role = .key)
    (secondListed : second ∈ before) (secondKey : second.role = .key) : first = second := by
  have kept : ∀ key ∈ before, key.role = .key → key ∈ before.filter Field.isKey := by
    intro key listed isKey
    exact List.mem_filter.mpr ⟨listed, by simpa [Field.isKey] using isKey⟩
  have firstKept := kept first firstListed firstKey
  have secondKept := kept second secondListed secondKey
  rcases Nat.le_one_iff_eq_zero_or_eq_one.mp oneKey with none | one
  · rw [List.length_eq_zero_iff.mp none] at firstKept
    cases firstKept
  · rcases List.length_eq_one_iff.mp one with ⟨only, same⟩
    rw [same, List.mem_singleton] at firstKept secondKept
    exact firstKept.trans secondKept.symm

/-- Where there is one key at most, no two errors are of one rule. -/
theorem Breaks.unique (oneKey : (before.filter Field.isKey).length ≤ 1)
    (left : Breaks options before field error) (right : Breaks options before field other)
    (same : error.rank = other.rank) : error = other := by
  cases left with
  | multipleKeys _ listed isKey =>
      cases right with
      | multipleKeys _ otherListed otherKey =>
          rw [eq_of_oneKey oneKey listed isKey otherListed otherKey]
      | _ => simp [ValidationError.rank] at same
  | _ => cases right <;> first | rfl | simp [ValidationError.rank] at same

theorem fault?_eq_some_iff (consistent : Consistent options before) :
    fault? options before field = some error ↔ BreaksFirst options before field error := by
  constructor
  · exact breaksFirst_of_fault?
  · intro first
    cases outcome : fault? options before field with
    | none => exact absurd first.broken (fault?_eq_none_iff_not_breaks.mp outcome error)
    | some reported =>
        have other := breaksFirst_of_fault? outcome
        have same := Nat.le_antisymm (other.least _ first.broken) (first.least _ other.broken)
        rw [other.broken.unique consistent.oneKey first.broken same]

end Rules

/-! ## Positions -/

/-- The field at the position breaks a rule with respect to the fields before it. -/
def Violates (options : ValidationOptions) (fields : List Field) (position : Nat)
    (error : ValidationError) : Prop :=
  ∃ field, fields[position]? = some field ∧ Breaks options (fields.take position) field error

/-- No field before the position breaks a rule. -/
def CleanBefore (options : ValidationOptions) (fields : List Field) (position : Nat) : Prop :=
  ∀ earlier < position, ∀ error, ¬ Violates options fields earlier error

/-- The error is of the first rule broken at the first position where one is. -/
structure FirstViolation (options : ValidationOptions) (fields : List Field) (position : Nat)
    (error : ValidationError) : Prop where
  violated : Violates options fields position error
  firstRule : ∀ other, Violates options fields position other → error.rank ≤ other.rank
  firstPosition : CleanBefore options fields position

/-- A key stands at the position, and neither it nor a field before it breaks a rule. -/
def PassedKey (options : ValidationOptions) (fields : List Field) (position : Nat) : Prop :=
  ∃ key, fields[position]? = some key ∧ key.role = .key ∧
    CleanBefore options fields (position + 1)

section Positions

variable {options : ValidationOptions} {fields : List Field} {position : Nat}
  {error : ValidationError}

theorem cleanBefore_succ_iff :
    CleanBefore options fields (position + 1) ↔
      CleanBefore options fields position ∧ ∀ error, ¬ Violates options fields position error := by
  simp only [CleanBefore, Nat.lt_succ_iff_lt_or_eq]
  constructor
  · intro clean
    exact ⟨fun earlier before => clean earlier (.inl before), clean position (.inr rfl)⟩
  · intro parts earlier before
    rcases before with before | rfl
    · exact parts.1 earlier before
    · exact parts.2

/-- Fields without a violation are consistent, and the other way round. -/
theorem consistent_take_iff :
    Consistent options (fields.take position) ↔ CleanBefore options fields position := by
  induction position with
  | zero => simp [CleanBefore, consistent_nil]
  | succ position induction =>
      rw [cleanBefore_succ_iff, ← induction, List.take_add_one]
      cases found : fields[position]? with
      | none => simp [Violates, found]
      | some field =>
          simp only [Option.toList_some, consistent_concat_iff, fault?_eq_none_iff_not_breaks,
            Violates, found, Option.some.injEq, exists_eq_left']

theorem violates_iff {field : Field} (found : fields[position]? = some field) :
    Violates options fields position error ↔
      Breaks options (fields.take position) field error := by
  simp only [Violates, found, Option.some.injEq, exists_eq_left']

theorem fault?_of_firstViolation {field : Field} (found : fields[position]? = some field)
    (first : FirstViolation options fields position error) :
    fault? options (fields.take position) field = some error := by
  rw [fault?_eq_some_iff (consistent_take_iff.mpr first.firstPosition)]
  refine ⟨(violates_iff found).mp first.violated, ?_⟩
  intro other broken
  exact first.firstRule other ((violates_iff found).mpr broken)

theorem exists_firstViolation
    (violated : ∃ position error, Violates options fields position error) :
    ∃ position error, FirstViolation options fields position error := by
  classical
  have clean : CleanBefore options fields (Nat.find violated) := by
    intro earlier before error broken
    exact Nat.find_min violated before ⟨error, broken⟩
  rcases Nat.find_spec violated with ⟨error, field, found, broken⟩
  cases outcome : fault? options (fields.take (Nat.find violated)) field with
  | none => exact absurd broken (fault?_eq_none_iff_not_breaks.mp outcome error)
  | some reported =>
      have first := breaksFirst_of_fault? outcome
      refine ⟨_, reported, (violates_iff found).mpr first.broken, ?_, clean⟩
      intro other violates
      exact first.least other ((violates_iff found).mp violates)

/-! ## The survey -/

/-- Consistent fields are accepted one by one. -/
theorem survey_append {before front : List Field} (rest : List Field)
    (consistent : Consistent options (before ++ front)) :
    survey options before (front ++ rest) = survey options (before ++ front) rest := by
  induction front generalizing before with
  | nil => rw [List.append_nil, List.nil_append]
  | cons field others induction =>
      have shape : before ++ field :: others = before ++ [field] ++ others := by simp
      rw [shape] at consistent ⊢
      have clean := (consistent_concat_iff.mp consistent.front).2
      rw [List.cons_append, survey, clean]
      exact induction consistent

theorem check_of_clean (clean : ∀ position error, ¬ Violates options fields position error) :
    check options fields = ⟨fields, listFault? options fields⟩ := by
  have consistent : Consistent options ([] ++ fields) := by
    have before : CleanBefore options fields fields.length := fun position _ => clean position
    have whole := consistent_take_iff.mpr before
    rwa [List.take_length] at whole
  have surveyed := survey_append [] consistent
  rw [List.append_nil, List.nil_append] at surveyed
  rw [check, surveyed]
  rfl

/-- The survey ends at the first violation. -/
theorem check_of_firstViolation (first : FirstViolation options fields position error) :
    check options fields = ⟨fields.take position, some error⟩ := by
  rcases first.violated with ⟨field, found, _⟩
  have fault := fault?_of_firstViolation found first
  rcases List.getElem?_eq_some_iff.mp found with ⟨inRange, same⟩
  have split : fields.take position ++ field :: fields.drop (position + 1) = fields := by
    rw [← same, List.getElem_cons_drop, List.take_append_drop]
  have consistent : Consistent options ([] ++ fields.take position) :=
    consistent_take_iff.mpr first.firstPosition
  have surveyed := survey_append (field :: fields.drop (position + 1)) consistent
  rw [split, List.nil_append, survey, fault] at surveyed
  rw [check, surveyed]
  rfl

/-- What follows the first violation does not matter. -/
theorem FirstViolation.append (first : FirstViolation options fields position error)
    (more : List Field) : FirstViolation options (fields ++ more) position error := by
  rcases first.violated with ⟨field, found, _⟩
  rcases List.getElem?_eq_some_iff.mp found with ⟨inRange, _⟩
  have same : ∀ other ≤ position, ∀ error,
      Violates options (fields ++ more) other error ↔ Violates options fields other error := by
    intro other before error
    have otherInRange : other < fields.length := Nat.lt_of_le_of_lt before inRange
    rw [Violates, Violates, List.getElem?_append_left otherInRange,
      List.take_append_of_le_length (Nat.le_of_lt otherInRange)]
  refine ⟨(same _ (Nat.le_refl _) _).mpr first.violated, ?_, ?_⟩
  · intro other violated
    exact first.firstRule other ((same _ (Nat.le_refl _) _).mp violated)
  · intro earlier before error violated
    exact first.firstPosition earlier before error
      ((same _ (Nat.le_of_lt before) _).mp violated)

theorem FirstViolation.check_append (first : FirstViolation options fields position error)
    (more : List Field) : check options (fields ++ more) = check options fields := by
  rcases first.violated with ⟨field, found, _⟩
  rcases List.getElem?_eq_some_iff.mp found with ⟨inRange, _⟩
  rw [check_of_firstViolation first, check_of_firstViolation (first.append more),
    List.take_append_of_le_length (Nat.le_of_lt inRange)]

/-! ## The position of the key -/

/-- The fields before the place where the survey ends are accepted. -/
theorem exists_accepted_eq_take (options : ValidationOptions) (fields : List Field) :
    ∃ stop, (check options fields).accepted = fields.take stop ∧
      CleanBefore options fields stop ∧
      (fields.length ≤ stop ∨ ∃ error, Violates options fields stop error) := by
  by_cases violated : ∃ position error, Violates options fields position error
  · rcases exists_firstViolation violated with ⟨position, error, first⟩
    rw [check_of_firstViolation first]
    exact ⟨position, rfl, first.firstPosition, .inr ⟨error, first.violated⟩⟩
  · simp only [not_exists] at violated
    rw [check_of_clean violated]
    exact ⟨fields.length, (List.take_length).symm, fun position _ => violated position,
      .inl (Nat.le_refl _)⟩

theorem keyIndex?_check_eq_some_iff :
    (check options fields).keyIndex? = some position ↔ PassedKey options fields position := by
  rcases exists_accepted_eq_take options fields with ⟨stop, accepted, clean, ended⟩
  rw [Survey.keyIndex?, accepted, keyIndex?, List.findIdx?_eq_some_iff_getElem]
  simp only [List.getElem_take, List.length_take, Nat.lt_min]
  constructor
  · intro found
    rcases found with ⟨⟨before, inRange⟩, isKey, _⟩
    rw [Field.isKey, decide_eq_true_eq] at isKey
    refine ⟨fields[position], List.getElem?_eq_getElem inRange, isKey, ?_⟩
    intro earlier early
    exact clean earlier (by omega)
  · intro passed
    rcases passed with ⟨key, found, isKey, passed⟩
    rcases List.getElem?_eq_some_iff.mp found with ⟨inRange, rfl⟩
    have before : position < stop := by
      by_contra late
      rcases ended with whole | ⟨error, violated⟩
      · omega
      · exact passed stop (by omega) error violated
    refine ⟨⟨before, inRange⟩, by simpa [Field.isKey] using isKey, ?_⟩
    intro earlier early other
    have second : Violates options fields position
        (.multipleKeys (fields[earlier]).resolvedName (fields[position]).resolvedName) :=
      ⟨_, found, .multipleKeys isKey (List.mem_take_iff_getElem.mpr ⟨earlier, by omega, rfl⟩)
        (by simpa [Field.isKey] using other)⟩
    exact passed position (Nat.lt_succ_self _) _ second

/-- A fault is that of the first violation, or of the whole list where there is none. -/
theorem check_fault?_eq_some_iff :
    (check options fields).fault? = some error ↔
      (∃ position, FirstViolation options fields position error) ∨
        (∀ position error, ¬ Violates options fields position error) ∧
          listFault? options fields = some error := by
  by_cases violated : ∃ position error, Violates options fields position error
  · rcases exists_firstViolation violated with ⟨position, reported, first⟩
    rw [check_of_firstViolation first, Option.some.injEq]
    constructor
    · intro same
      exact .inl ⟨position, same ▸ first⟩
    · intro known
      rcases known with ⟨other, firstOther⟩ | ⟨clean, _⟩
      · have same := check_of_firstViolation firstOther
        rw [check_of_firstViolation first] at same
        exact Option.some.inj (congrArg Survey.fault? same)
      · exact absurd first.violated (clean _ _)
  · have clean : ∀ position error, ¬ Violates options fields position error := by
      simpa only [not_exists] using violated
    rw [check_of_clean clean]
    constructor
    · intro lacking
      exact .inr ⟨clean, lacking⟩
    · intro known
      rcases known with ⟨position, first⟩ | ⟨_, lacking⟩
      · exact absurd first.violated (clean _ _)
      · exact lacking

theorem listFault?_eq_noKey_iff :
    listFault? options fields = some .noKey ↔ ∀ field ∈ fields, field.role ≠ .key := by
  simp only [listFault?]
  split
  · rename_i keyless
    simpa [Field.isKey] using keyless
  · rename_i keyed
    split <;> simp_all [Field.isKey]

theorem listFault?_eq_noVector_iff :
    listFault? options fields = some .noVector ↔
      (∃ field ∈ fields, field.role = .key) ∧ options.requireVector = true ∧
        ∀ field ∈ fields, field.role ≠ .vector := by
  simp only [listFault?]
  split
  · rename_i keyless
    simp_all [Field.isKey]
  · rename_i keyed
    split <;> simp_all [Field.isKey, Field.isVector]

/-- A second key is reported with the key that passed before it. -/
theorem FirstViolation.exists_passedKey {first second : Text}
    (violation : FirstViolation options fields position (.multipleKeys first second)) :
    ∃ earlier key other, earlier < position ∧ fields[earlier]? = some key ∧
      fields[position]? = some other ∧ key.role = .key ∧ first = key.resolvedName ∧
      second = other.resolvedName ∧ PassedKey options fields earlier := by
  rcases violation.violated with ⟨other, found, broken⟩
  cases broken with
  | @multipleKeys key _ listed isKey =>
      rcases List.mem_take_iff_getElem.mp listed with ⟨earlier, inRange, same⟩
      have before : earlier < position := by omega
      have earlierFound : fields[earlier]? = some key :=
        List.getElem?_eq_some_iff.mpr ⟨by omega, same⟩
      have passed : PassedKey options fields earlier :=
        ⟨key, earlierFound, isKey, fun place early => violation.firstPosition place (by omega)⟩
      exact ⟨earlier, key, other, before, earlierFound, found, isKey, rfl, rfl, passed⟩

/-- A violation is never that of the whole list. -/
theorem FirstViolation.rank_le (first : FirstViolation options fields position error) :
    error.rank ≤ 7 := by
  rcases first.violated with ⟨field, _, broken⟩
  cases broken <;> simp [ValidationError.rank]

theorem rank_of_listFault? (lacking : listFault? options fields = some error) :
    error.rank = 8 := by
  simp only [listFault?] at lacking
  split_ifs at lacking <;> cases lacking <;> rfl

theorem check_fault?_eq_some_iff_of_list (whole : error.rank = 8) :
    (check options fields).fault? = some error ↔
      (∀ position error, ¬ Violates options fields position error) ∧
        listFault? options fields = some error := by
  rw [check_fault?_eq_some_iff, or_iff_right]
  intro violated
  rcases violated with ⟨position, first⟩
  have bound := first.rank_le
  omega

end Positions

/-- The first violation decides, and nothing after it matters. That a key or a vector field is
missing is said only where there is no violation, and of a vector field only where there
is a key. The key that passed is the one whose position is told, also where the list is
refused later, and the one that a second key is reported to come after. -/
theorem first_violation_decides (options : ValidationOptions) (fields : List Field) :
    (∀ position error, FirstViolation options fields position error →
      (check options fields).fault? = some error) ∧
    ((∃ position error, Violates options fields position error) →
      (∃ position error, FirstViolation options fields position error) ∧
        ∀ more, check options (fields ++ more) = check options fields) ∧
    ((check options fields).fault? = some .noKey ↔
      (∀ position error, ¬ Violates options fields position error) ∧
        ∀ field ∈ fields, field.role ≠ .key) ∧
    ((check options fields).fault? = some .noVector ↔
      (∀ position error, ¬ Violates options fields position error) ∧
        (∃ field ∈ fields, field.role = .key) ∧ options.requireVector = true ∧
          ∀ field ∈ fields, field.role ≠ .vector) ∧
    (∀ held position, PassedKey options fields position →
      (check options fields).keyIndex?.getD held = position) ∧
    (∀ held, (∀ position, ¬ PassedKey options fields position) →
      (check options fields).keyIndex?.getD held = held) ∧
    ∀ first second, (check options fields).fault? = some (.multipleKeys first second) →
      ∃ earlier position key other, earlier < position ∧ fields[earlier]? = some key ∧
        fields[position]? = some other ∧ key.role = .key ∧ first = key.resolvedName ∧
        second = other.resolvedName ∧
        ∀ held, (check options fields).keyIndex?.getD held = earlier := by
  refine ⟨?_, ?_, ?_, ?_, ?_, ?_, ?_⟩
  · intro position error first
    rw [check_of_firstViolation first]
  · intro violated
    rcases exists_firstViolation violated with ⟨position, error, first⟩
    exact ⟨⟨position, error, first⟩, fun more => first.check_append more⟩
  · rw [check_fault?_eq_some_iff_of_list rfl, listFault?_eq_noKey_iff]
  · rw [check_fault?_eq_some_iff_of_list rfl, listFault?_eq_noVector_iff]
  · intro held position passed
    rw [keyIndex?_check_eq_some_iff.mpr passed]
    rfl
  · intro held none
    rw [Option.eq_none_iff_forall_ne_some.mpr fun position found =>
      none position (keyIndex?_check_eq_some_iff.mp found)]
    rfl
  · intro first second reported
    rcases check_fault?_eq_some_iff.mp reported with ⟨position, violation⟩ | ⟨_, lacking⟩
    · rcases violation.exists_passedKey with
        ⟨earlier, key, other, before, found, otherFound, isKey, named, otherNamed, passed⟩
      have told := keyIndex?_check_eq_some_iff.mpr passed
      exact ⟨earlier, position, key, other, before, found, otherFound, isKey, named, otherNamed,
        fun held => congrArg (·.getD held) told⟩
    · cases rank_of_listFault? lacking

/-- The second key is of a type that no key may have, but it is a second key first. -/
def twoKeys : List Field := [.data "note" .json false false, .key "id" .string, .key "flag" .bool]

theorem first_violation_decides_two_keys :
    Violates {} twoKeys 2 (.multipleKeys "id" "flag") ∧
      (check {} twoKeys).fault? = some (.multipleKeys "id" "flag") ∧
      (∀ held, (check {} twoKeys).keyIndex?.getD held = 1) ∧
      ∀ more, check {} (twoKeys ++ more) = check {} twoKeys := by
  have second : Violates {} twoKeys 2 (.multipleKeys "id" "flag") :=
    ⟨_, rfl, .multipleKeys rfl (List.mem_cons_of_mem _ List.mem_cons_self) rfl⟩
  have reported : (check {} twoKeys).fault? = some (.multipleKeys "id" "flag") := rfl
  rcases first_violation_decides {} twoKeys with ⟨_, stable, _, _, _, _, first⟩
  rcases first _ _ reported with ⟨earlier, _, _, _, _, _, _, _, _, _, told⟩
  cases (told 99).symm.trans (rfl : _ = 1)
  exact ⟨second, reported, told, (stable ⟨_, _, second⟩).2⟩

end Validation

end CollectionSchema
