import CollectionSchema.Collection.Container
import CollectionSchema.Proofs.Sequence

/-! # What passes through containers

Rows are checked before a hook packs them and after a hook has unpacked them. So
a hook may do anything and yet no other rows pass, and of the rows that do not it
is the first one that is named.
-/

namespace CollectionSchema

namespace CollectionDefinition

variable {Payload : Type} {definition : CollectionDefinition Payload}

/-! ## Rows -/

/-- The check passes each of the rows, at whatever position. -/
def Checked (definition : CollectionDefinition Payload) (rows : List Json) : Prop :=
  ∀ row ∈ rows, ∀ position, definition.checkRow position row = .ok ()

/-- The error is that of the first row which the check does not pass. -/
def FirstRefused (definition : CollectionDefinition Payload) (rows : List Json)
    (error : RowError) : Prop :=
  ∃ before row after, rows = before ++ row :: after ∧ error.position = before.length ∧
    definition.Checked before ∧ definition.checkRow error.position row = .error error

theorem checkRow_eq_ok_iff {position : Nat} {row : Json} :
    definition.checkRow position row = .ok () ↔ definition.rowFault? row = none := by
  simp only [checkRow]
  split
  · rename_i fault found
    simp [found]
  · rename_i clean
    simp [clean]

theorem position_eq_of_checkRow {position : Nat} {row : Json} {error : RowError}
    (refused : definition.checkRow position row = .error error) : error.position = position := by
  simp only [checkRow] at refused
  split at refused
  · cases refused
    rfl
  · cases refused

theorem checked_cons_iff {position : Nat} {row : Json} {rest : List Json} :
    definition.Checked (row :: rest) ↔
      definition.checkRow position row = .ok () ∧ definition.Checked rest := by
  simp only [Checked, List.forall_mem_cons, checkRow_eq_ok_iff, forall_const]

theorem checkRows_eq_ok_iff {position : Nat} {rows : List Json} :
    definition.checkRows position rows = .ok () ↔ definition.Checked rows := by
  induction rows generalizing position with
  | nil => exact iff_of_true rfl fun row listed => absurd listed List.not_mem_nil
  | cons row rest induction =>
      rw [checkRows, check_bind_eq_ok_iff, checked_cons_iff, induction]

theorem refused_of_checkRows {position : Nat} {rows : List Json} {error : RowError}
    (failed : definition.checkRows position rows = .error error) :
    ∃ before row after, rows = before ++ row :: after ∧ definition.Checked before ∧
      definition.checkRow (position + before.length) row = .error error := by
  induction rows generalizing position with
  | nil => cases failed
  | cons row rest induction =>
      rw [checkRows, bind_eq_error_iff] at failed
      rcases failed with first | ⟨_, first, later⟩
      · exact ⟨[], row, rest, rfl, fun _ listed => absurd listed List.not_mem_nil, first⟩
      · rcases induction later with ⟨before, refused, after, split, checked, failed⟩
        refine ⟨row :: before, refused, after, congrArg (row :: ·) split,
          checked_cons_iff.mpr ⟨first, checked⟩, ?_⟩
        rw [List.length_cons, Nat.add_comm before.length, ← Nat.add_assoc]
        exact failed

theorem checkRows_append_of_checked {position : Nat} {before rest : List Json}
    (checked : definition.Checked before) :
    definition.checkRows position (before ++ rest) =
      definition.checkRows (position + before.length) rest := by
  induction before generalizing position with
  | nil => rfl
  | cons row others induction =>
      rcases checked_cons_iff.mp checked with ⟨first, later⟩
      rw [List.length_cons, Nat.add_comm others.length, ← Nat.add_assoc, ← induction later,
        List.cons_append, checkRows, first]
      rfl

theorem checkRows_eq_error_iff {rows : List Json} {error : RowError} :
    definition.checkRows 0 rows = .error error ↔ definition.FirstRefused rows error := by
  constructor
  · intro failed
    rcases refused_of_checkRows failed with ⟨before, row, after, split, checked, refused⟩
    rw [Nat.zero_add] at refused
    have position := position_eq_of_checkRow refused
    exact ⟨before, row, after, split, position, checked, position ▸ refused⟩
  · intro first
    rcases first with ⟨before, row, after, rfl, position, checked, refused⟩
    rw [checkRows_append_of_checked checked, Nat.zero_add, ← position, checkRows, refused]
    rfl

theorem exists_firstRefused {rows : List Json} (unchecked : ¬ definition.Checked rows) :
    ∃ error, definition.FirstRefused rows error := by
  cases outcome : definition.checkRows 0 rows with
  | ok _ => exact absurd (checkRows_eq_ok_iff.mp outcome) unchecked
  | error error => exact ⟨error, checkRows_eq_error_iff.mp outcome⟩

/-! ## Checks of a whole operation -/

theorem checkContainerMode_eq_ok_iff :
    definition.checkContainerMode = .ok () ↔ definition.containerMode = true := by
  cases mode : definition.containerMode <;> simp [checkContainerMode, mode]

theorem checkContainerMode_ne_row (error : RowError) :
    definition.checkContainerMode ≠ .error (.row error) := by
  cases mode : definition.containerMode <;> simp [checkContainerMode, mode]

theorem checkPacking_eq_ok_iff {rows : List Json} :
    definition.checkPacking rows = .ok () ↔
      definition.containerMode = true ∧ definition.Checked rows := by
  rw [checkPacking, check_bind_eq_ok_iff, mapError_eq_ok_iff, checkContainerMode_eq_ok_iff,
    checkRows_eq_ok_iff]

theorem mapError_checkRows_eq_row_iff {rows : List Json} {error : RowError} :
    (definition.checkRows 0 rows).mapError ContainerError.row = .error (.row error) ↔
      definition.FirstRefused rows error := by
  rw [mapError_eq_error_iff, ← checkRows_eq_error_iff]
  constructor
  · intro failed
    rcases failed with ⟨_, failed, same⟩
    cases same
    exact failed
  · intro failed
    exact ⟨error, failed, rfl⟩

theorem checkPacking_eq_row_iff {rows : List Json} {error : RowError} :
    definition.checkPacking rows = .error (.row error) ↔
      definition.containerMode = true ∧ definition.FirstRefused rows error := by
  rw [checkPacking, check_bind_eq_error_iff (checkContainerMode_ne_row error),
    checkContainerMode_eq_ok_iff, mapError_checkRows_eq_row_iff]

/-- The rows are as many as a count expects, which expects nothing if it is negative. -/
def Counted (expected : Int) (rows : List Json) : Prop :=
  0 ≤ expected → (rows.length : Int) = expected

theorem checkRowCount_eq_ok_iff {expected : Int} {rows : List Json} :
    checkRowCount expected rows = .ok () ↔ Counted expected rows := by
  simp only [checkRowCount, Counted]
  split
  · rename_i miscounted
    simp [miscounted]
  · rename_i counted
    simpa using counted

theorem checkRowCount_ne_row {expected : Int} {rows : List Json} (error : RowError) :
    checkRowCount expected rows ≠ .error (.row error) := by
  simp only [checkRowCount]
  split <;> simp

/-- Rows of another count are not looked at. -/
theorem checkUnpacked_of_not_counted {expected : Int} {rows : List Json}
    (miscounted : ¬ Counted expected rows) :
    definition.checkUnpacked expected rows = .error (.rowCount rows.length expected) := by
  rw [Counted, Classical.not_imp] at miscounted
  rw [checkUnpacked, checkRowCount, if_pos miscounted]
  rfl

theorem checkUnpacked_eq_ok_iff {expected : Int} {rows result : List Json} :
    definition.checkUnpacked expected rows = .ok result ↔
      result = rows ∧ Counted expected rows ∧ definition.Checked rows := by
  rw [checkUnpacked, check_bind_eq_ok_iff, check_bind_eq_ok_iff, checkRowCount_eq_ok_iff,
    mapError_eq_ok_iff, checkRows_eq_ok_iff]
  constructor
  · intro steps
    rcases steps with ⟨counted, checked, same⟩
    cases same
    exact ⟨rfl, counted, checked⟩
  · intro parts
    rcases parts with ⟨rfl, counted, checked⟩
    exact ⟨counted, checked, rfl⟩

theorem checkUnpacked_eq_row_iff {expected : Int} {rows : List Json} {error : RowError} :
    definition.checkUnpacked expected rows = .error (.row error) ↔
      Counted expected rows ∧ definition.FirstRefused rows error := by
  rw [checkUnpacked, check_bind_eq_error_iff (checkRowCount_ne_row error), checkRowCount_eq_ok_iff,
    bind_eq_error_iff, mapError_checkRows_eq_row_iff]
  refine and_congr_right fun _ => or_iff_left ?_
  intro steps
  rcases steps with ⟨_, _, failed⟩
  cases failed

/-! ## Hooks

The hook of a definition, or any other that acts in a monad, runs only when the
checks before it have passed. -/

section Hooks

variable {m : Type → Type} [Monad m] {rows : List Json}

theorem packWith_of_checked (mode : definition.containerMode = true)
    (checked : definition.Checked rows) (hook : List Json → m (Attempt (Container Payload))) :
    definition.packWith (some hook) rows =
      hook rows >>= fun attempt => pure (attempt.mapError .packHook) := by
  have passed := checkPacking_eq_ok_iff.mpr ⟨mode, checked⟩
  simp only [packWith, passed]

theorem packWith_of_not_checked
    (unchecked : ¬ (definition.containerMode = true ∧ definition.Checked rows))
    (hook? : Option (List Json → m (Attempt (Container Payload)))) :
    ∃ error, definition.packWith hook? rows = pure (.error error) := by
  cases outcome : definition.checkPacking rows with
  | ok _ => exact absurd (checkPacking_eq_ok_iff.mp outcome) unchecked
  | error error => exact ⟨error, by simp only [packWith, outcome]⟩

theorem unpackWith_of_mode (mode : definition.containerMode = true)
    (hook : Container Payload → m (Attempt (List Json))) (container : Container Payload)
    (expected : Int) :
    definition.unpackWith (some hook) container expected =
      hook container >>= fun attempt =>
        pure (attempt.mapError .unpackHook >>= definition.checkUnpacked expected) := by
  have passed := checkContainerMode_eq_ok_iff.mpr mode
  simp only [unpackWith, passed]

end Hooks

/-! ## Packing -/

/-- The rows as a container: the result of the hook, or the rows themselves. -/
def Packs (definition : CollectionDefinition Payload) (rows : List Json)
    (packed : Container Payload) : Prop :=
  match definition.hooks? with
  | none => packed = .rows rows
  | some hooks => hooks.pack rows = .ok packed

def packUnchecked (definition : CollectionDefinition Payload) (rows : List Json) :
    Except ContainerError (Container Payload) :=
  match definition.hooks? with
  | none => .ok (.rows rows)
  | some hooks => (hooks.pack rows).mapError .packHook

theorem packUnchecked_eq_ok_iff {rows : List Json} {packed : Container Payload} :
    definition.packUnchecked rows = .ok packed ↔ definition.Packs rows packed := by
  simp only [packUnchecked, Packs]
  split
  · rw [Except.ok.injEq, eq_comm]
  · exact mapError_eq_ok_iff

theorem packUnchecked_ne_row {rows : List Json} (error : RowError) :
    definition.packUnchecked rows ≠ .error (.row error) := by
  simp only [packUnchecked]
  split
  · exact nofun
  · apply mapError_ne_error
    exact fun _ => nofun

theorem pack_eq (definition : CollectionDefinition Payload) (rows : List Json) :
    definition.pack rows =
      (definition.checkPacking rows >>= fun _ => definition.packUnchecked rows) := by
  simp only [pack, packWith, packUnchecked]
  cases definition.checkPacking rows <;> cases definition.hooks? <;> rfl

theorem pack_eq_ok_iff {rows : List Json} {packed : Container Payload} :
    definition.pack rows = .ok packed ↔
      definition.containerMode = true ∧ definition.Checked rows ∧
        definition.Packs rows packed := by
  rw [pack_eq, check_bind_eq_ok_iff, checkPacking_eq_ok_iff, packUnchecked_eq_ok_iff, and_assoc]

theorem pack_eq_row_iff {rows : List Json} {error : RowError} :
    definition.pack rows = .error (.row error) ↔
      definition.containerMode = true ∧ definition.FirstRefused rows error := by
  rw [pack_eq, bind_eq_error_iff, checkPacking_eq_row_iff]
  refine or_iff_left ?_
  intro steps
  rcases steps with ⟨_, _, failed⟩
  exact packUnchecked_ne_row error failed

/-! ## Unpacking -/

/-- The rows that a container yields, which nothing has checked yet. -/
def Yields (definition : CollectionDefinition Payload) (container : Container Payload)
    (rows : List Json) : Prop :=
  match definition.hooks? with
  | none => container = .rows rows
  | some hooks => hooks.unpack container = .ok rows

def unpackUnchecked (definition : CollectionDefinition Payload)
    (container : Container Payload) : Except ContainerError (List Json) :=
  match definition.hooks? with
  | none => container.listed
  | some hooks => (hooks.unpack container).mapError .unpackHook

theorem unpackUnchecked_eq_ok_iff {container : Container Payload} {rows : List Json} :
    definition.unpackUnchecked container = .ok rows ↔ definition.Yields container rows := by
  simp only [unpackUnchecked, Yields]
  split
  · cases container <;> simp [Container.listed]
  · exact mapError_eq_ok_iff

theorem unpackUnchecked_ne_row {container : Container Payload} (error : RowError) :
    definition.unpackUnchecked container ≠ .error (.row error) := by
  simp only [unpackUnchecked]
  split
  · cases container <;> exact nofun
  · apply mapError_ne_error
    exact fun _ => nofun

theorem unpack_eq (definition : CollectionDefinition Payload) (container : Container Payload)
    (expected : Int) :
    definition.unpack container expected =
      (definition.checkContainerMode >>= fun _ =>
        definition.unpackUnchecked container >>= definition.checkUnpacked expected) := by
  simp only [unpack, unpackWith, unpackUnchecked]
  cases definition.checkContainerMode <;> cases definition.hooks? <;> rfl

section Unpacked

variable {container : Container Payload} {expected : Int} {rows : List Json}

theorem unpack_of_yields (mode : definition.containerMode = true)
    (yields : definition.Yields container rows) :
    definition.unpack container expected = definition.checkUnpacked expected rows := by
  rw [unpack_eq, checkContainerMode_eq_ok_iff.mpr mode, unpackUnchecked_eq_ok_iff.mpr yields]
  rfl

theorem unpack_eq_ok_iff :
    definition.unpack container expected = .ok rows ↔
      definition.containerMode = true ∧ definition.Yields container rows ∧
        Counted expected rows ∧ definition.Checked rows := by
  rw [unpack_eq, check_bind_eq_ok_iff, bind_eq_ok_iff, checkContainerMode_eq_ok_iff]
  refine and_congr_right fun _ => ?_
  simp only [unpackUnchecked_eq_ok_iff, checkUnpacked_eq_ok_iff]
  constructor
  · intro steps
    rcases steps with ⟨_, yields, rfl, checks⟩
    exact ⟨yields, checks⟩
  · intro parts
    exact ⟨rows, parts.1, rfl, parts.2⟩

theorem unpack_eq_row_iff {error : RowError} :
    definition.unpack container expected = .error (.row error) ↔
      definition.containerMode = true ∧ ∃ rows, definition.Yields container rows ∧
        Counted expected rows ∧ definition.FirstRefused rows error := by
  rw [unpack_eq, check_bind_eq_error_iff (checkContainerMode_ne_row error), bind_eq_error_iff,
    or_iff_right (unpackUnchecked_ne_row error), checkContainerMode_eq_ok_iff]
  simp only [unpackUnchecked_eq_ok_iff, checkUnpacked_eq_row_iff]

end Unpacked

/-! ## Both operations -/

/-- Whatever the hooks do, only rows that pass the check go into a container and
come out of one, and only as many as were asked for. Every failure leaves what the
caller held, and one of a row names the first row that does not pass. -/
theorem only_checked_rows_pass (definition : CollectionDefinition Payload) (rows : List Json)
    (container held : Container Payload) (heldRows : List Json) (expected : Int) :
    (∀ packed, definition.pack rows = .ok packed →
      definition.containerMode = true ∧ definition.Checked rows ∧
        definition.Packs rows packed) ∧
    (∀ (m : Type → Type) [Monad m] (hook : List Json → m (Attempt (Container Payload))),
      (definition.containerMode = true ∧ definition.Checked rows →
        definition.packWith (some hook) rows =
          hook rows >>= fun attempt => pure (attempt.mapError .packHook)) ∧
      (¬ (definition.containerMode = true ∧ definition.Checked rows) →
        ∃ error, definition.packWith (some hook) rows = pure (.error error))) ∧
    (∀ error, definition.pack rows = .error error →
      error.status.kind? = some .serialization ∧ assign held (definition.pack rows) = held) ∧
    (∀ error, definition.pack rows = .error (.row error) ↔
      definition.containerMode = true ∧ definition.FirstRefused rows error) ∧
    (∀ unpacked, definition.unpack container expected = .ok unpacked →
      definition.containerMode = true ∧ definition.Yields container unpacked ∧
        Counted expected unpacked ∧ definition.Checked unpacked) ∧
    (∀ (m : Type → Type) [Monad m] (hook : Container Payload → m (Attempt (List Json))),
      definition.containerMode = true →
        definition.unpackWith (some hook) container expected =
          hook container >>= fun attempt =>
            pure (attempt.mapError .unpackHook >>= definition.checkUnpacked expected)) ∧
    (∀ error, definition.unpack container expected = .error error →
      error.status.kind? = some .serialization ∧
        assign heldRows (definition.unpack container expected) = heldRows) ∧
    (∀ yielded, definition.containerMode = true → definition.Yields container yielded →
      ¬ Counted expected yielded →
        definition.unpack container expected = .error (.rowCount yielded.length expected)) ∧
    (∀ error, definition.unpack container expected = .error (.row error) ↔
      definition.containerMode = true ∧ ∃ yielded, definition.Yields container yielded ∧
        Counted expected yielded ∧ definition.FirstRefused yielded error) ∧
    (∀ given, ¬ definition.Checked given → ∃ error, definition.FirstRefused given error) ∧
    ∀ error : RowError, (ContainerError.row error).status.message =
      "Row " ++ Text.ofNat error.position ++ ": " ++ error.fault.message := by
  refine ⟨?_, ?_, ?_, ?_, ?_, ?_, ?_, ?_, ?_, ?_, ?_⟩
  · intro packed succeeded
    exact pack_eq_ok_iff.mp succeeded
  · intro m _ hook
    constructor
    · intro passes
      exact packWith_of_checked passes.1 passes.2 hook
    · intro unchecked
      exact packWith_of_not_checked unchecked (some hook)
  · intro error failed
    exact ⟨Status.kind?_failure _ _, by rw [failed]; rfl⟩
  · intro error
    exact pack_eq_row_iff
  · intro unpacked succeeded
    exact unpack_eq_ok_iff.mp succeeded
  · intro m _ hook mode
    exact unpackWith_of_mode mode hook container expected
  · intro error failed
    exact ⟨Status.kind?_failure _ _, by rw [failed]; rfl⟩
  · intro yielded mode yields miscounted
    rw [unpack_of_yields mode yields]
    exact checkUnpacked_of_not_counted miscounted
  · intro error
    exact unpack_eq_row_iff
  · intro given unchecked
    exact exists_firstRefused unchecked
  · intro error
    rfl

/-- Its hooks heed no rows and hand out one that the check does not pass. -/
def headstrong : CollectionDefinition Empty where
  name := "notes"
  fields := [.key "id" .string]
  keyIndex := 0
  keyIndex_lt := Nat.zero_lt_one
  containerMode := true
  hooks? := some {
    pack := fun _ => .ok .empty
    unpack := fun _ => .ok [.object [("id", .string "a")], .null] }

theorem only_checked_rows_pass_headstrong :
    headstrong.containerMode = true ∧ headstrong.FirstRefused [.null] ⟨0, .notObject⟩ ∧
      headstrong.pack [.null] = .error (.row ⟨0, .notObject⟩) ∧
      headstrong.unpack .empty 2 = .error (.row ⟨1, .notObject⟩) ∧
      headstrong.unpack .empty 3 = .error (.rowCount 2 3) := by
  have nothing : headstrong.FirstRefused [.null] ⟨0, .notObject⟩ :=
    ⟨[], .null, [], rfl, rfl, fun _ listed => absurd listed List.not_mem_nil, rfl⟩
  have later : headstrong.FirstRefused [.object [("id", .string "a")], .null] ⟨1, .notObject⟩ :=
    ⟨[.object [("id", .string "a")]], .null, [], rfl, rfl,
      checkRows_eq_ok_iff.mp (by rfl : headstrong.checkRows 0 _ = .ok ()), rfl⟩
  have yields : headstrong.Yields .empty [.object [("id", .string "a")], .null] := rfl
  have two := only_checked_rows_pass headstrong [.null] .empty .empty [] 2
  have three := only_checked_rows_pass headstrong [.null] .empty .empty [] 3
  rcases two with ⟨_, _, _, packed, _, _, _, _, unpacked, _, _⟩
  rcases three with ⟨_, _, _, _, _, _, _, miscounted, _, _, _⟩
  exact ⟨rfl, nothing, (packed _).mpr ⟨rfl, nothing⟩,
    (unpacked _).mpr ⟨rfl, _, yields, fun _ => rfl, later⟩,
    miscounted _ rfl yields fun counted => absurd (counted (by decide)) (by decide)⟩

end CollectionDefinition

end CollectionSchema
