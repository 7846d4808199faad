import CollectionSchema.Dictionary
import Mathlib.Data.Set.Card

/-! # Entries of a dictionary

Where a new entry goes, which entries are found, and how many hold a value of some kind.
-/

namespace CollectionSchema

namespace Dictionary

variable {Key : Type u} {Value : Type v} [DecidableEq Key] {key : Key}
  {entries : Dictionary Key Value}

theorem set_of_notMem (absent : key ∉ keys entries) (value : Value) :
    set key value entries = entries ++ [(key, value)] := by
  induction entries with
  | nil => rfl
  | cons head rest induction =>
      rcases head with ⟨other, previous⟩
      have parts := not_or.mp fun listed => absent (List.mem_cons.mpr listed)
      rw [set, if_neg (Ne.symm parts.1), induction parts.2]
      rfl

/-! ## Lookups -/

instance (entries : Dictionary Key Value) : Decidable (WellFormed entries) :=
  inferInstanceAs (Decidable (keys entries).Nodup)

theorem get?_eq_some_iff_mem (wellFormed : WellFormed entries) {value : Value} :
    get? key entries = some value ↔ (key, value) ∈ entries := by
  induction entries with
  | nil => simp [get?]
  | cons head rest induction =>
      rcases head with ⟨other, previous⟩
      have parts := List.nodup_cons.mp wellFormed
      rw [get?, List.mem_cons, Prod.mk.injEq]
      by_cases equal : other = key
      · subst equal
        have absent : (other, value) ∉ rest := fun listed =>
          parts.1 (List.mem_map.mpr ⟨_, listed, rfl⟩)
        simp [absent, eq_comm]
      · rw [if_neg equal, induction parts.2]
        simp [Ne.symm equal]

/-- Where no key is listed twice, the order of the entries is of no account. -/
theorem get?_eq_of_perm {others : Dictionary Key Value} (wellFormed : WellFormed entries)
    (perm : entries.Perm others) (key : Key) : get? key entries = get? key others := by
  have permuted : WellFormed others := (perm.map Prod.fst).nodup_iff.mp wellFormed
  ext value
  rw [get?_eq_some_iff_mem wellFormed, get?_eq_some_iff_mem permuted, perm.mem_iff]

section Renaming

variable {Name : Type w} {Other : Type x} [DecidableEq Name] {rename : Key → Name}
  {corresponds : Key → Value → Other → Prop} {others : Dictionary Name Other}

omit [DecidableEq Key] [DecidableEq Name] in
theorem keys_eq_map_of_forall₂
    (each : List.Forall₂ (fun entry other => other.1 = rename entry.1 ∧
      corresponds entry.1 entry.2 other.2) entries others) :
    keys others = (keys entries).map rename := by
  induction each with
  | nil => rfl
  | cons first _ induction => exact congrArg₂ List.cons first.1 induction

/-- Entries that correspond one by one, under other keys, correspond at every key that no
other key is renamed to. -/
theorem rel_get?_of_forall₂
    (each : List.Forall₂ (fun entry other => other.1 = rename entry.1 ∧
      corresponds entry.1 entry.2 other.2) entries others)
    (apart : ∀ listed ∈ keys entries, rename listed = rename key → listed = key) :
    Option.Rel (corresponds key) (get? key entries) (get? (rename key) others) := by
  induction each with
  | nil => exact .none
  | @cons entry other rest restOthers first _ induction =>
      rcases entry with ⟨listed, value⟩
      rcases other with ⟨name, told⟩
      rcases first with ⟨rfl, related⟩
      have parts := List.forall_mem_cons.mp apart
      by_cases equal : listed = key
      · subst equal
        rw [get?, get?, if_pos rfl, if_pos rfl]
        exact .some related
      · rw [get?, get?, if_neg equal, if_neg fun same => equal (parts.1 same)]
        exact induction parts.2

end Renaming

/-! ## Keys set in turn -/

section InTurn

variable {calls : List (Key × Value)}

theorem set_set (key : Key) (first second : Value) (entries : Dictionary Key Value) :
    set key second (set key first entries) = set key second entries := by
  induction entries with
  | nil => simp [set]
  | cons head rest induction =>
      rcases head with ⟨other, previous⟩
      by_cases equal : other = key <;> simp [set, equal, induction]

/-- The dictionary with the values set one after another. -/
def setAll (calls : List (Key × Value)) (entries : Dictionary Key Value) :
    Dictionary Key Value :=
  calls.foldl (fun made call => set call.1 call.2 made) entries

theorem setAll_append (front back : List (Key × Value)) (entries : Dictionary Key Value) :
    setAll (front ++ back) entries = setAll back (setAll front entries) :=
  List.foldl_append

theorem wellFormed_setAll (wellFormed : WellFormed entries) (calls : List (Key × Value)) :
    WellFormed (setAll calls entries) := by
  induction calls generalizing entries with
  | nil => exact wellFormed
  | cons call rest induction => exact induction (wellFormed_set wellFormed call.1 call.2)

/-- The keys that are new come last, each where it was set first. -/
theorem keys_setAll (calls : List (Key × Value)) (entries : Dictionary Key Value) :
    keys (setAll calls entries) =
      keys entries ++ ((calls.map Prod.fst).filter (· ∉ keys entries)).eraseDups := by
  induction calls generalizing entries with
  | nil => simp [setAll]
  | cons call rest induction =>
      rcases call with ⟨first, value⟩
      refine (induction _).trans ?_
      rw [keys_set, List.map_cons, List.filter_cons]
      by_cases listed : first ∈ keys entries
      · simp [listed]
      · have later : (rest.map Prod.fst).filter (· ∉ keys entries ++ [first]) =
            ((rest.map Prod.fst).filter (· ∉ keys entries)).filter fun key => !key == first := by
          rw [List.filter_filter]
          apply List.filter_congr
          intro key _
          rw [Bool.eq_iff_iff]
          simp [and_comm]
        simp only [listed, if_false, later, List.append_assoc, List.singleton_append,
          not_false_eq_true, decide_true, if_true, List.eraseDups_cons]

theorem get?_setAll_of_notMem (absent : key ∉ calls.map Prod.fst)
    (entries : Dictionary Key Value) : get? key (setAll calls entries) = get? key entries := by
  induction calls generalizing entries with
  | nil => rfl
  | cons call rest induction =>
      rw [List.map_cons, List.mem_cons, not_or] at absent
      exact (induction absent.2 _).trans (get?_set_of_ne absent.1 call.2 entries)

/-- The value that was set last is there. -/
theorem get?_setAll_of_last {front back : List (Key × Value)} {value : Value}
    (split : calls = front ++ (key, value) :: back) (last : key ∉ back.map Prod.fst)
    (entries : Dictionary Key Value) : get? key (setAll calls entries) = some value := by
  subst split
  rw [setAll_append]
  exact (get?_setAll_of_notMem last _).trans (get?_set_self key value _)

/-- What is set under other keys does not matter. -/
theorem get?_setAll_filter (calls : List (Key × Value)) {entries others : Dictionary Key Value}
    (same : get? key entries = get? key others) :
    get? key (setAll (calls.filter (·.1 = key)) entries) = get? key (setAll calls others) := by
  induction calls generalizing entries others with
  | nil => exact same
  | cons call rest induction =>
      by_cases equal : call.1 = key
      · rw [List.filter_cons_of_pos (by simpa using equal)]
        subst equal
        exact induction (by rw [get?_set_self, get?_set_self])
      · rw [List.filter_cons_of_neg (by simpa using equal)]
        exact induction (same.trans (get?_set_of_ne (Ne.symm equal) call.2 others).symm)

end InTurn

/-! ## Counts of values -/

section Counts

variable (counted : Value → Bool)

/-- A value that is set counts in the place of the one that was there. -/
theorem countP_set (key : Key) (value : Value) (entries : Dictionary Key Value) :
    (set key value entries).countP (counted ·.2) +
        ((get? key entries).elim false counted).toNat =
      entries.countP (counted ·.2) + (counted value).toNat := by
  induction entries with
  | nil => cases holds : counted value <;> simp [set, get?, holds]
  | cons head rest induction =>
      rcases head with ⟨other, previous⟩
      by_cases equal : other = key
      · rw [set, if_pos equal, get?, if_pos equal]
        cases before : counted previous <;> cases after : counted value <;>
          simp [before, after]
      · rw [set, if_neg equal, get?, if_neg equal, List.countP_cons, List.countP_cons]
        omega

/-- The entries that count are as many as the keys that lead to such a value. -/
theorem encard_setOf_get? (wellFormed : WellFormed entries) :
    {key | ∃ value, get? key entries = some value ∧ counted value = true}.encard =
      entries.countP (counted ·.2) := by
  induction entries with
  | nil => simp [get?]
  | cons head rest induction =>
      rcases head with ⟨first, value⟩
      have parts := List.nodup_cons.mp wellFormed
      have absent : get? first rest = none := by
        rw [← Option.not_isSome_iff_eq_none, get?_isSome_iff]
        exact parts.1
      have others := induction parts.2
      rw [List.countP_cons]
      cases holds : counted value with
      | false =>
          rw [if_neg Bool.false_ne_true, Nat.add_zero, ← others]
          congr 1
          ext key
          by_cases equal : first = key
          · subst equal
            simp [get?, holds, absent]
          · simp [get?, equal]
      | true =>
          have inserted : {key | ∃ held, get? key ((first, value) :: rest) = some held ∧
              counted held = true} =
              insert first {key | ∃ held, get? key rest = some held ∧ counted held = true} := by
            ext key
            by_cases equal : first = key
            · subst equal
              simp [get?, holds]
            · simp [get?, equal, Ne.symm equal]
          rw [inserted, Set.encard_insert_of_notMem (by simp [absent]), others, if_pos rfl,
            Nat.cast_add, Nat.cast_one]

end Counts

end Dictionary

end CollectionSchema
