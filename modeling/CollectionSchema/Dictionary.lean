/-! # Dictionaries

A dictionary lists its entries in the order in which their keys first came.
Setting a key that is present replaces its value in place.
-/

namespace CollectionSchema

abbrev Dictionary (Key : Type u) (Value : Type v) := List (Key × Value)

namespace Dictionary

variable {Key : Type u} {Value : Type v}

def keys (entries : Dictionary Key Value) : List Key := entries.map Prod.fst

/-- No key is listed twice. -/
def WellFormed (entries : Dictionary Key Value) : Prop := (keys entries).Nodup

variable [DecidableEq Key]

def get? (key : Key) : Dictionary Key Value → Option Value
  | [] => none
  | (other, value) :: rest => if other = key then some value else get? key rest

def set (key : Key) (value : Value) : Dictionary Key Value → Dictionary Key Value
  | [] => [(key, value)]
  | (other, previous) :: rest =>
      if other = key then (other, value) :: rest
      else (other, previous) :: set key value rest

/-- A key that is listed again replaces its value. -/
def ofList (entries : List (Key × Value)) : Dictionary Key Value :=
  entries.foldl (fun made entry => set entry.1 entry.2 made) []

@[simp] theorem get?_set_self (key : Key) (value : Value)
    (entries : Dictionary Key Value) : get? key (set key value entries) = some value := by
  induction entries with
  | nil => simp [set, get?]
  | cons head rest induction =>
      rcases head with ⟨other, previous⟩
      by_cases equal : other = key <;> simp [set, get?, equal, induction]

@[simp] theorem get?_set_of_ne {key other : Key} (different : other ≠ key) (value : Value)
    (entries : Dictionary Key Value) :
    get? other (set key value entries) = get? other entries := by
  induction entries with
  | nil => simp [set, get?, Ne.symm different]
  | cons head rest induction =>
      rcases head with ⟨first, previous⟩
      by_cases equal : first = key
      · subst equal
        simp [set, get?, Ne.symm different]
      · simp [set, get?, equal, induction]

/-- A key of the front hides the same key of the back. -/
@[simp] theorem get?_append (key : Key) (front back : Dictionary Key Value) :
    get? key (front ++ back) = (get? key front).or (get? key back) := by
  induction front with
  | nil => simp [get?]
  | cons head rest induction =>
      rcases head with ⟨other, value⟩
      by_cases equal : other = key <;> simp [get?, equal, induction]

theorem get?_isSome_iff (key : Key) (entries : Dictionary Key Value) :
    (get? key entries).isSome = true ↔ key ∈ keys entries := by
  induction entries with
  | nil => simp [get?, keys]
  | cons head rest induction =>
      rcases head with ⟨other, previous⟩
      by_cases equal : other = key
      · simp [get?, keys, equal]
      · have flipped : ¬ key = other := fun same => equal same.symm
        simpa [get?, keys, equal, flipped] using induction

/-- Setting a new key lists it last; setting a present one moves nothing. -/
theorem keys_set (key : Key) (value : Value) (entries : Dictionary Key Value) :
    keys (set key value entries) =
      if key ∈ keys entries then keys entries else keys entries ++ [key] := by
  induction entries with
  | nil => simp [set, keys]
  | cons head rest induction =>
      rcases head with ⟨other, previous⟩
      by_cases equal : other = key
      · simp [set, keys, equal]
      · have flipped : ¬ key = other := fun same => equal same.symm
        simp only [keys] at induction
        simp only [set, equal, if_false, keys, List.map_cons, List.mem_cons, flipped, false_or,
          induction]
        by_cases member : key ∈ List.map Prod.fst rest <;> simp [member]

theorem wellFormed_set {entries : Dictionary Key Value} (wellFormed : WellFormed entries)
    (key : Key) (value : Value) : WellFormed (set key value entries) := by
  unfold WellFormed at *
  rw [keys_set]
  split
  · exact wellFormed
  · rename_i absent
    rw [List.nodup_append]
    refine ⟨wellFormed, by simp, ?_⟩
    intro listed member last lastMember equal
    rw [List.mem_singleton] at lastMember
    exact absent (lastMember ▸ equal ▸ member)

end Dictionary

end CollectionSchema
