import CollectionSchema.Json
import CollectionSchema.Proofs.Dictionary

/-! # Objects that are updated

The setters of an object change one member each. So the object keeps its members in the
order in which they were first set, and each member has the value that was set last.
-/

namespace CollectionSchema.Json

/-! ## One setter -/

/-- The value that a setter leaves. -/
def Setter.value : Setter → Json
  | .null => .null
  | .bool value => .bool value
  | .int value => .int value
  | .double value => .double value
  | .string value => .string value
  | .any value => value
  | .elements values => .array values

theorem pushTo_set (members : List (Text × Json)) (key : Text) (elements : List Json)
    (element : Json) :
    ((object members).set key (array elements)).pushTo key element =
      (object members).set key (array (elements ++ [element])) := by
  rw [pushTo, member, member?_set_self]
  exact congrArg object (Dictionary.set_set key _ _ members)

/-- The elements that are added in turn end up in the array that was set first. -/
theorem setArray_object (members : List (Text × Json)) (key : Text) (elements : List Json) :
    (object members).setArray key elements = (object members).set key (array elements) := by
  have added : ∀ front : List Json,
      elements.foldl (fun made element => made.pushTo key element)
        ((object members).set key (array front)) =
      (object members).set key (array (front ++ elements)) := by
    induction elements with
    | nil => exact fun front => by rw [List.append_nil]; rfl
    | cons element rest induction =>
        intro front
        rw [List.foldl_cons, pushTo_set, induction, List.append_assoc, List.singleton_append]
  exact added []

theorem put_object (members : List (Text × Json)) (key : Text) (setter : Setter) :
    (object members).put key setter = object (Dictionary.set key setter.value members) := by
  cases setter with
  | elements values => exact setArray_object members key values
  | _ => rfl

/-! ## Setters in turn -/

/-- The members are those of a dictionary that the values are set in. -/
theorem putAll_object (members : List (Text × Json)) (calls : List (Text × Setter)) :
    (object members).putAll calls =
      object (Dictionary.setAll (calls.map fun call => (call.1, call.2.value)) members) := by
  induction calls generalizing members with
  | nil => rfl
  | cons call rest induction =>
      rw [putAll, List.foldl_cons, put_object]
      exact induction _

section Updated

variable {members : List (Text × Json)} {calls : List (Text × Setter)} {key : Text}

theorem keys_putAll (members : List (Text × Json)) (calls : List (Text × Setter)) :
    ((object members).putAll calls).keys = (object members).keys ++
      ((calls.map Prod.fst).filter (· ∉ (object members).keys)).eraseDups := by
  have set := Dictionary.keys_setAll (calls.map fun call => (call.1, call.2.value)) members
  rw [List.map_map] at set
  rw [putAll_object]
  exact set

theorem wellFormed_putAll (wellFormed : (object members).WellFormed)
    (calls : List (Text × Setter)) : ((object members).putAll calls).WellFormed := by
  rw [putAll_object]
  exact Dictionary.wellFormed_setAll wellFormed _

theorem member?_putAll_of_last {front back : List (Text × Setter)} {setter : Setter}
    (split : calls = front ++ (key, setter) :: back) (last : key ∉ back.map Prod.fst)
    (members : List (Text × Json)) :
    ((object members).putAll calls).member? key = some setter.value := by
  have same : (calls.map fun call => (call.1, call.2.value)) =
      (front.map fun call => (call.1, call.2.value)) ++ (key, setter.value) ::
        back.map fun call => (call.1, call.2.value) := by
    rw [split, List.map_append, List.map_cons]
  rw [putAll_object, member?_object]
  apply Dictionary.get?_setAll_of_last same
  rw [List.map_map]
  exact last

theorem member?_putAll_of_notMem (absent : key ∉ calls.map Prod.fst)
    (members : List (Text × Json)) :
    ((object members).putAll calls).member? key = (object members).member? key := by
  rw [putAll_object, member?_object]
  apply Dictionary.get?_setAll_of_notMem
  rw [List.map_map]
  exact absent

theorem member?_putAll_filter (members : List (Text × Json)) (calls : List (Text × Setter))
    (key : Text) :
    ((object members).putAll (calls.filter (·.1 = key))).member? key =
      ((object members).putAll calls).member? key := by
  have own : (calls.filter (·.1 = key)).map (fun call => (call.1, call.2.value)) =
      (calls.map fun call => (call.1, call.2.value)).filter (·.1 = key) := by
    rw [List.filter_map]
    rfl
  rw [putAll_object, putAll_object, own]
  exact Dictionary.get?_setAll_filter _ rfl

theorem size_eq_length_keys (members : List (Text × Json)) :
    (object members).size = (object members).keys.length :=
  (List.length_map _).symm

end Updated

/-- Whatever setters are called on an object, it lists its old members and then the new
ones in the order in which they were first set. Each has the value that was set last,
and no call on another key matters to it. An array that was set last is read element by
element as it was given. -/
theorem members_in_order_of_first_setting (members : List (Text × Json))
    (wellFormed : (object members).WellFormed) (calls : List (Text × Setter)) :
    let original := object members
    let updated := original.putAll calls
    updated.isObject = true ∧ updated.keys.Nodup ∧
      updated.keys = original.keys ++
        ((calls.map Prod.fst).filter (· ∉ original.keys)).eraseDups ∧
      updated.size = updated.keys.length ∧
      ∀ key,
        (updated.hasMember key = true ↔ key ∈ updated.keys) ∧
        (∀ front setter back, calls = front ++ (key, setter) :: back →
          key ∉ back.map Prod.fst → updated.member key = setter.value) ∧
        (key ∉ calls.map Prod.fst → updated.member key = original.member key) ∧
        (key ∉ updated.keys → updated.member key = null) ∧
        (original.putAll (calls.filter (·.1 = key))).member key = updated.member key ∧
        ∀ front items back, calls = front ++ (key, .elements items) :: back →
          key ∉ back.map Prod.fst →
          updated.memberSize key = items.length ∧
          (∀ index (inRange : index < items.length),
            updated.memberElement key index = items[index]) ∧
          ∀ index ≥ items.length, updated.memberElement key index = null := by
  intro original updated
  have last : ∀ key front setter back, calls = front ++ (key, setter) :: back →
      key ∉ back.map Prod.fst → updated.member key = setter.value := by
    intro key front setter back split last
    rw [member, member?_putAll_of_last split last]
    rfl
  refine ⟨?_, wellFormed_putAll wellFormed calls, keys_putAll members calls, ?_, ?_⟩
  · rw [show updated = _ from putAll_object members calls]
    rfl
  · rw [show updated = _ from putAll_object members calls]
    exact size_eq_length_keys _
  · intro key
    refine ⟨updated.hasMember_iff key, last key, ?_, ?_, ?_, ?_⟩
    · intro absent
      rw [member, member?_putAll_of_notMem absent]
      rfl
    · intro unlisted
      rw [← hasMember_iff, hasMember, Option.not_isSome_iff_eq_none] at unlisted
      rw [member, unlisted]
      rfl
    · rw [member, member?_putAll_filter]
      rfl
    · intro front items back split later
      have held := last key front _ back split later
      refine ⟨?_, ?_, ?_⟩
      · rw [memberSize, held]
        rfl
      · intro index inRange
        rw [memberElement, held]
        exact congrArg (·.getD null) (List.getElem?_eq_getElem inRange)
      · intro index beyond
        rw [memberElement, held]
        exact congrArg (·.getD null) (List.getElem?_eq_none beyond)

/-! A note gets its tags by two calls, and as an array only by the second one. -/

def untagged : List (Text × Json) := [("id", int 7), ("title", null)]

def tagging : List (Text × Setter) :=
  [("tags", .string "new"), ("title", .any (object untagged)), ("score", .double .zero),
    ("tags", .elements [bool true, null]), ("score", .null)]

theorem members_in_order_of_first_setting_tagging :
    let updated := (object untagged).putAll tagging
    (object untagged).WellFormed ∧ updated.keys = ["id", "title", "tags", "score"] ∧
      updated.member "id" = int 7 ∧ updated.member "title" = object untagged ∧
      updated.memberSize "tags" = 2 ∧ updated.memberElement "tags" 0 = bool true ∧
      updated.memberElement "tags" 2 = null ∧ updated.hasMember "score" = true ∧
      updated.member "missing" = null := by
  intro updated
  have wellFormed : (object untagged).WellFormed := by
    change Dictionary.WellFormed untagged
    decide
  rcases members_in_order_of_first_setting untagged wellFormed tagging with
    ⟨_, _, keys, _, each⟩
  have listed : updated.keys = ["id", "title", "tags", "score"] := keys.trans (by decide)
  have tags := (each "tags").2.2.2.2.2 (tagging.take 3) _ (tagging.drop 4) rfl (by decide)
  refine ⟨wellFormed, listed, ?_, ?_, tags.1, tags.2.1 0 Nat.zero_lt_two, ?_, ?_, ?_⟩
  · exact (each "id").2.2.1 (by decide)
  · exact (each "title").2.1 (tagging.take 1) _ (tagging.drop 2) rfl (by decide)
  · exact tags.2.2 2 (Nat.le_refl 2)
  · exact (each "score").1.mpr (listed.symm ▸ by decide)
  · exact (each "missing").2.2.2.1 (listed.symm ▸ by decide)

end CollectionSchema.Json
