import CollectionSchema.Proofs.Collection.Containers

/-! # Rows through containers

Without hooks, packing rows and unpacking a container that lists them end alike, although
the checks come in another order. With hooks that undo each other on the rows, what was
packed is unpacked as it was.
-/

namespace CollectionSchema

/-- On the rows neither hook throws, and the second undoes the first. -/
def Hooks.Restores {Payload : Type} (hooks : Hooks Payload) (rows : List Json) : Prop :=
  ∃ packed, hooks.pack rows = .ok packed ∧ hooks.unpack packed = .ok rows

namespace CollectionDefinition

variable {Payload : Type} {definition : CollectionDefinition Payload} {rows : List Json}

/-! ## Negative counts -/

theorem checkRowCount_of_negative {expected : Int} (negative : expected < 0)
    (rows : List Json) : checkRowCount expected rows = .ok () :=
  checkRowCount_eq_ok_iff.mpr fun nonnegative => absurd negative (Int.not_lt.mpr nonnegative)

theorem unpack_of_negative {expected : Int} (negative : expected < 0)
    (container : Container Payload) :
    definition.unpack container expected = definition.unpack container (-1) := by
  have same : definition.checkUnpacked expected = definition.checkUnpacked (-1) := by
    funext rows
    rw [checkUnpacked, checkUnpacked, checkRowCount_of_negative negative,
      checkRowCount_of_negative (by decide)]
  rw [unpack_eq, unpack_eq, same]

/-! ## Rows as their own container -/

/-- Both operations come to the same checks, and to the same failure where one fails. -/
theorem pack_eq_map_unpack (listing : definition.hooks? = none) {expected : Int}
    (negative : expected < 0) :
    definition.pack rows = (definition.unpack (.rows rows) expected).map .rows := by
  simp only [pack_eq, packUnchecked, unpack_eq, unpackUnchecked, listing, Container.listed,
    checkPacking]
  cases definition.checkContainerMode with
  | error error => rfl
  | ok _ =>
      change _ = (definition.checkUnpacked expected rows).map Container.rows
      rw [checkUnpacked, checkRowCount_of_negative negative]
      cases definition.checkRows 0 rows <;> rfl

/-! ## There and back -/

/-- What the rows are packed into yields them again. -/
def RoundTrips (definition : CollectionDefinition Payload) (rows : List Json) : Prop :=
  ∃ packed, definition.Packs rows packed ∧ definition.Yields packed rows

theorem roundTrips_of_restores
    (restores : ∀ hooks, definition.hooks? = some hooks → hooks.Restores rows) :
    definition.RoundTrips rows := by
  unfold RoundTrips Packs Yields
  cases hooks : definition.hooks? with
  | none => exact ⟨.rows rows, rfl, rfl⟩
  | some pair => exact restores pair hooks

theorem Packs.unique {first second : Container Payload} (left : definition.Packs rows first)
    (right : definition.Packs rows second) : first = second :=
  Except.ok.inj ((packUnchecked_eq_ok_iff.mpr left).symm.trans (packUnchecked_eq_ok_iff.mpr right))

theorem Yields.unique {container : Container Payload} {others : List Json}
    (left : definition.Yields container rows) (right : definition.Yields container others) :
    rows = others :=
  Except.ok.inj
    ((unpackUnchecked_eq_ok_iff.mpr left).symm.trans (unpackUnchecked_eq_ok_iff.mpr right))

section Packed

variable {packed : Container Payload}

theorem exists_pack_iff_checked (mode : definition.containerMode = true)
    (back : definition.RoundTrips rows) :
    (∃ packed, definition.pack rows = .ok packed) ↔ definition.Checked rows := by
  simp only [pack_eq_ok_iff, mode, true_and]
  constructor
  · intro succeeded
    rcases succeeded with ⟨_, checked, _⟩
    exact checked
  · intro checked
    rcases back with ⟨packed, packs, _⟩
    exact ⟨packed, checked, packs⟩

/-- The count alone can fail on rows that were packed. -/
theorem unpack_of_pack (back : definition.RoundTrips rows)
    (succeeded : definition.pack rows = .ok packed) {expected : Int} {result : List Json} :
    definition.unpack packed expected = .ok result ↔ result = rows ∧ Counted expected rows := by
  rcases pack_eq_ok_iff.mp succeeded with ⟨mode, checked, packs⟩
  rcases back with ⟨made, sent, yields⟩
  cases packs.unique sent
  rw [unpack_eq_ok_iff]
  constructor
  · intro parts
    rcases parts with ⟨_, other, counted, _⟩
    cases other.unique yields
    exact ⟨rfl, counted⟩
  · intro parts
    rcases parts with ⟨rfl, counted⟩
    exact ⟨mode, yields, counted, checked⟩

end Packed

/-- Without hooks, rows are packed with the very outcome with which a container that lists
them is unpacked. Without hooks, or with hooks that restore the rows, exactly the rows that
pass the check are packed, and they are unpacked as they were. A count that is not negative
must be that of the rows then, and a negative one never has an effect. -/
theorem packed_rows_return (definition : CollectionDefinition Payload) (rows : List Json)
    (mode : definition.containerMode = true) :
    (definition.hooks? = none → ∀ expected < 0,
      definition.pack rows = (definition.unpack (.rows rows) expected).map .rows) ∧
    ((∀ hooks, definition.hooks? = some hooks → hooks.Restores rows) →
      ((∃ packed, definition.pack rows = .ok packed) ↔ definition.Checked rows) ∧
      ∀ packed, definition.pack rows = .ok packed →
        (∀ expected < 0, definition.unpack packed expected = .ok rows) ∧
        ∀ expected ≥ 0, ∀ result, definition.unpack packed expected = .ok result ↔
          expected = rows.length ∧ result = rows) ∧
    ∀ container, ∀ expected < 0,
      definition.unpack container expected = definition.unpack container (-1) := by
  refine ⟨?_, ?_, ?_⟩
  · intro listing expected negative
    exact pack_eq_map_unpack listing negative
  · intro restores
    have back := roundTrips_of_restores restores
    refine ⟨exists_pack_iff_checked mode back, ?_⟩
    intro packed succeeded
    constructor
    · intro expected negative
      have counted := checkRowCount_eq_ok_iff.mp (checkRowCount_of_negative negative rows)
      exact (unpack_of_pack back succeeded).mpr ⟨rfl, counted⟩
    · intro expected nonnegative result
      rw [unpack_of_pack back succeeded, and_comm, Counted]
      simp only [ge_iff_le] at nonnegative
      simp only [nonnegative, true_implies, eq_comm]
  · intro container expected negative
    exact unpack_of_negative negative container

/-! A table with one column packs the keys of its rows alone. -/

def column : CollectionDefinition (List Text) where
  name := "notes"
  fields := [.key "id" .string]
  keyIndex := 0
  keyIndex_lt := Nat.zero_lt_one
  containerMode := true
  hooks? := some {
    pack := fun rows => .ok (.payload (rows.map fun row => (row.member "id").asText))
    unpack := fun
      | .payload ids => .ok (ids.map fun id => .object [("id", .string id)])
      | _ => .error .unknown }

theorem packed_rows_return_column :
    let rows := [Json.object [("id", .string "a")], .object [("id", .string "b")]]
    column.containerMode = true ∧
      (∀ hooks, column.hooks? = some hooks → hooks.Restores rows) ∧
      column.pack rows = .ok (.payload ["a", "b"]) ∧
      column.unpack (.payload ["a", "b"]) (-7) = .ok rows ∧
      (∀ result, column.unpack (.payload ["a", "b"]) 3 ≠ .ok result) := by
  intro rows
  have restores : ∀ hooks, column.hooks? = some hooks → hooks.Restores rows := by
    intro hooks set
    cases set
    exact ⟨_, rfl, rfl⟩
  have packed : column.pack rows = .ok (.payload ["a", "b"]) := rfl
  have back := ((packed_rows_return column rows rfl).2.1 restores).2 _ packed
  refine ⟨rfl, restores, packed, back.1 (-7) (by decide), ?_⟩
  intro result unpacked
  exact absurd ((back.2 3 (by decide) result).mp unpacked).1 (by decide)

end CollectionDefinition

end CollectionSchema
