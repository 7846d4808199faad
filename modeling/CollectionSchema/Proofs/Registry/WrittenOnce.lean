import CollectionSchema.Proofs.Registry.Machine

/-! # Entries written once

An entry is absent, then building, then ready, and a ready one stays as it is. A
build could only end over an outcome that is there if its entry were no longer
building, or if two builds were in progress for one slot; neither is ever so.
-/

namespace CollectionSchema

variable {Payload Result : Type}

namespace Event

/-- A build for the slot starts to run. -/
def begins (slot : Slot) : Event Payload → Bool
  | began other => other = slot
  | _ => false

/-- The outcome that a caller has been told of, or has registered. -/
def settled? : Event Payload → Option (Slot × Outcome Payload)
  | built slot outcome | recalled slot outcome => some (slot, outcome)
  | registered slot shared => some (slot, ⟨.ok, some shared⟩)
  | silent | began _ | refused _ => none

end Event

/-! ## What a step does -/

namespace Machine

def lookup? (machine : Machine Payload Result) (slot : Slot) : Option (Entry Payload) :=
  machine.session.lookup? slot

def slots (machine : Machine Payload Result) : List Slot := machine.stack.slots

/-- The entry of the slot is written, and no other one. -/
def Writes (slot : Slot) (entry : Entry Payload) (before after : Machine Payload Result) :
    Prop :=
  ∀ other, after.lookup? other = if other = slot then some entry else before.lookup? other

/-- What a step that shows an event does to the entries and the builds in progress. -/
inductive Effect (before after : Machine Payload Result) : Event Payload → Prop
  | silent (entries : after.lookup? = before.lookup?) (slots : after.slots = before.slots) :
      Effect before after .silent
  | began {slot : Slot} (absent : before.lookup? slot = none)
      (writes : Writes slot .building before after)
      (slots : after.slots = slot :: before.slots) : Effect before after (.began slot)
  | built {slot : Slot} {outcome : Outcome Payload}
      (writes : Writes slot (.ready outcome) before after)
      (slots : before.slots = slot :: after.slots) : Effect before after (.built slot outcome)
  | recalled {slot : Slot} {outcome : Outcome Payload}
      (ready : before.lookup? slot = some (.ready outcome))
      (entries : after.lookup? = before.lookup?) (slots : after.slots = before.slots) :
      Effect before after (.recalled slot outcome)
  | registered {slot : Slot} {shared : Shared Payload} (absent : before.lookup? slot = none)
      (writes : Writes slot (.ready ⟨.ok, some shared⟩) before after)
      (slots : after.slots = before.slots) : Effect before after (.registered slot shared)
  | refused {slot : Slot} (entries : after.lookup? = before.lookup?)
      (slots : after.slots = before.slots) : Effect before after (.refused slot)

theorem lookup?_setRegistry {session : Session Payload} (slot : Slot) {entry : Entry Payload}
    {registry : Registry Payload}
    (entries : registry.entries =
      ((session.registries slot.registry).setEntry slot.type entry).entries) (other : Slot) :
    (session.setRegistry slot.registry registry).lookup? other =
      if other = slot then some entry else session.lookup? other := by
  rcases slot with ⟨id, type⟩
  rcases other with ⟨otherId, otherType⟩
  simp only [Session.lookup?]
  by_cases sameId : otherId = id
  · subst sameId
    rw [Session.registries_setRegistry_self, Registry.find?, entries]
    change ((session.registries otherId).setEntry type entry).find? otherType = _
    by_cases sameType : otherType = type <;> simp [sameType]
  · simp [sameId]

theorem effect_of_step {before after : Machine Payload Result} {event : Event Payload}
    (stepped : before.step = some (event, after)) : Effect before after event := by
  rcases before with ⟨Current, program, stack, session⟩
  cases program with
  | done value =>
      cases stack with
      | empty => cases stepped
      | waiting slot label next outer =>
          cases stepped
          exact .built (lookup?_setRegistry slot rfl) rfl
  | emit record next =>
      cases stepped
      exact .silent rfl rfl
  | share definition next =>
      cases stepped
      exact .silent rfl rfl
  | request id type label build next =>
      simp only [step] at stepped
      split at stepped
      · rename_i outcome ready
        cases stepped
        exact .recalled ready rfl rfl
      · cases stepped
      · rename_i absent
        cases stepped
        exact .began absent (lookup?_setRegistry ⟨id, type⟩ rfl) rfl
  | register id type definition? next =>
      cases definition? with
      | none =>
          cases stepped
          exact .silent rfl rfl
      | some shared =>
          simp only [step] at stepped
          split at stepped
          · cases stepped
          · cases stepped
            exact .refused rfl rfl
          · rename_i absent
            cases stepped
            exact .registered absent (lookup?_setRegistry ⟨id, type⟩ rfl) rfl
  | inspect id next =>
      cases stepped
      exact .silent rfl rfl

/-! ## Builds in progress -/

/-- Each build in progress has its entry to itself. -/
structure Orderly (machine : Machine Payload Result) : Prop where
  distinct : machine.slots.Nodup
  building : ∀ slot ∈ machine.slots, machine.lookup? slot = some .building

theorem orderly_start (program : Program Payload Result) (session : Session Payload) :
    (start program session).Orderly where
  distinct := List.nodup_nil
  building _ listed := absurd listed List.not_mem_nil

/-- An entry that is absent belongs to no build in progress. -/
theorem Orderly.notMem_of_absent {machine : Machine Payload Result}
    (orderly : machine.Orderly) {slot : Slot} (absent : machine.lookup? slot = none) :
    slot ∉ machine.slots := by
  intro listed
  rw [orderly.building slot listed] at absent
  cases absent

/-- Writing an entry leaves the builds of other entries in progress. -/
theorem Orderly.building_of_writes {before after : Machine Payload Result}
    (orderly : before.Orderly) {slot other : Slot} {entry : Entry Payload}
    (writes : Writes slot entry before after) (listed : other ∈ before.slots)
    (different : other ≠ slot) : after.lookup? other = some .building := by
  rw [writes other, if_neg different]
  exact orderly.building other listed

theorem Orderly.of_unchanged {before after : Machine Payload Result}
    (orderly : before.Orderly) (entries : after.lookup? = before.lookup?)
    (slots : after.slots = before.slots) : after.Orderly where
  distinct := by
    rw [slots]
    exact orderly.distinct
  building := by
    rw [slots, entries]
    exact orderly.building

theorem orderly_of_step {before after : Machine Payload Result} {event : Event Payload}
    (orderly : before.Orderly) (stepped : before.step = some (event, after)) :
    after.Orderly := by
  cases effect_of_step stepped with
  | silent entries slots => exact orderly.of_unchanged entries slots
  | recalled _ entries slots => exact orderly.of_unchanged entries slots
  | refused entries slots => exact orderly.of_unchanged entries slots
  | @began slot absent writes slots =>
      have fresh := orderly.notMem_of_absent absent
      constructor
      · rw [slots]
        exact List.nodup_cons.mpr ⟨fresh, orderly.distinct⟩
      · intro other listed
        rw [slots] at listed
        rcases List.mem_cons.mp listed with same | listed
        · rw [writes other, if_pos same]
        · have different : other ≠ slot := fun same => fresh (same ▸ listed)
          exact orderly.building_of_writes writes listed different
  | @built slot outcome writes slots =>
      have distinct := orderly.distinct
      rw [slots] at distinct
      have parts := List.nodup_cons.mp distinct
      constructor
      · exact parts.2
      · intro other listed
        have different : other ≠ slot := fun same => parts.1 (same ▸ listed)
        have waiting : other ∈ before.slots := slots ▸ List.mem_cons_of_mem slot listed
        exact orderly.building_of_writes writes waiting different
  | @registered slot shared absent writes slots =>
      have fresh := orderly.notMem_of_absent absent
      constructor
      · rw [slots]
        exact orderly.distinct
      · intro other listed
        rw [slots] at listed
        have different : other ≠ slot := fun same => fresh (same ▸ listed)
        exact orderly.building_of_writes writes listed different

/-! ## Entries that are there -/

theorem isSome_lookup?_of_step {before after : Machine Payload Result}
    {event : Event Payload} (stepped : before.step = some (event, after)) {slot : Slot}
    (present : (before.lookup? slot).isSome = true) : (after.lookup? slot).isSome = true := by
  have written {other : Slot} {entry : Entry Payload} (writes : Writes other entry before after) :
      (after.lookup? slot).isSome = true := by
    rw [writes slot]
    split
    · rfl
    · exact present
  cases effect_of_step stepped with
  | silent entries => exact entries ▸ present
  | recalled _ entries => exact entries ▸ present
  | refused entries => exact entries ▸ present
  | began _ writes => exact written writes
  | built writes => exact written writes
  | registered _ writes => exact written writes

/-- An outcome that is there is not replaced. -/
theorem ready_of_step {before after : Machine Payload Result} {event : Event Payload}
    (orderly : before.Orderly) (stepped : before.step = some (event, after)) {slot : Slot}
    {outcome : Outcome Payload} (ready : before.lookup? slot = some (.ready outcome)) :
    after.lookup? slot = some (.ready outcome) := by
  have elsewhere {other : Slot} {entry : Entry Payload}
      (writes : Writes other entry before after)
      (notReady : before.lookup? other ≠ some (.ready outcome)) :
      after.lookup? slot = some (.ready outcome) := by
    have different : slot ≠ other := fun same => notReady (same ▸ ready)
    rw [writes slot, if_neg different]
    exact ready
  cases effect_of_step stepped with
  | silent entries => exact entries ▸ ready
  | recalled _ entries => exact entries ▸ ready
  | refused entries => exact entries ▸ ready
  | began absent writes =>
      apply elsewhere writes
      rw [absent]
      exact nofun
  | registered absent writes =>
      apply elsewhere writes
      rw [absent]
      exact nofun
  | @built other _ writes slots =>
      -- the build of the step is in progress, so its entry holds no outcome yet
      have building := orderly.building other (slots ▸ List.mem_cons_self)
      apply elsewhere writes
      rw [building]
      exact nofun

theorem ready_of_settled {before after : Machine Payload Result} {event : Event Payload}
    (stepped : before.step = some (event, after)) {slot : Slot} {outcome : Outcome Payload}
    (settled : event.settled? = some (slot, outcome)) :
    after.lookup? slot = some (.ready outcome) := by
  cases effect_of_step stepped with
  | silent => cases settled
  | began => cases settled
  | refused => cases settled
  | built writes =>
      cases settled
      rw [writes, if_pos rfl]
  | registered _ writes =>
      cases settled
      rw [writes, if_pos rfl]
  | recalled ready entries =>
      cases settled
      exact entries ▸ ready

theorem begins_eq_false_of_step {before after : Machine Payload Result}
    {event : Event Payload} (stepped : before.step = some (event, after)) {slot : Slot}
    (present : (before.lookup? slot).isSome = true) : event.begins slot = false := by
  cases effect_of_step stepped with
  | began absent =>
      apply decide_eq_false
      intro same
      rw [← same, absent] at present
      cases present
  | _ => rfl

theorem isSome_lookup?_of_begins {before after : Machine Payload Result}
    {event : Event Payload} (stepped : before.step = some (event, after)) {slot : Slot}
    (begins : event.begins slot = true) : (after.lookup? slot).isSome = true := by
  cases effect_of_step stepped with
  | began _ writes =>
      rw [writes, if_pos (of_decide_eq_true begins).symm]
      rfl
  | _ => cases begins

end Machine

/-! ## Runs -/

namespace Transitions

variable {first last : Machine Payload Result} {events : List (Event Payload)} {slot : Slot}

theorem countP_begins_eq_zero (transitions : Transitions first events last)
    (present : (first.lookup? slot).isSome = true) : events.countP (Event.begins slot) = 0 := by
  induction transitions with
  | nil => rfl
  | cons step rest induction =>
      have idle := Machine.begins_eq_false_of_step step present
      rw [List.countP_cons_of_neg (ne_true_of_eq_false idle)]
      exact induction (Machine.isSome_lookup?_of_step step present)

/-- No two builds for a slot run, not even if the first one fails. -/
theorem countP_begins_le_one (transitions : Transitions first events last) :
    events.countP (Event.begins slot) ≤ 1 := by
  induction transitions with
  | nil => exact Nat.zero_le 1
  | @cons first middle last event events step rest induction =>
      cases begins : event.begins slot with
      | false =>
          rw [List.countP_cons_of_neg (ne_true_of_eq_false begins)]
          exact induction
      | true =>
          have present := Machine.isSome_lookup?_of_begins step begins
          have later := rest.countP_begins_eq_zero present
          rw [List.countP_cons_of_pos begins]
          omega

theorem ready (transitions : Transitions first events last) (orderly : first.Orderly)
    {outcome : Outcome Payload} (ready : first.lookup? slot = some (.ready outcome)) :
    last.lookup? slot = some (.ready outcome) := by
  induction transitions with
  | nil => exact ready
  | cons step _ induction =>
      exact induction (Machine.orderly_of_step orderly step)
        (Machine.ready_of_step orderly step ready)

/-- What a caller was told of a slot is there at the end. -/
theorem ready_of_settled (transitions : Transitions first events last)
    (orderly : first.Orderly) {event : Event Payload} (member : event ∈ events)
    {outcome : Outcome Payload} (settled : event.settled? = some (slot, outcome)) :
    last.lookup? slot = some (.ready outcome) := by
  induction transitions with
  | nil => cases member
  | cons step rest induction =>
      have orderlyNext := Machine.orderly_of_step orderly step
      rcases List.mem_cons.mp member with same | later
      · subst same
        exact rest.ready orderlyNext (Machine.ready_of_settled step settled)
      · exact induction orderlyNext later

/-- Along the steps of any program, at most one build runs for a slot. Once a request
for it has returned, or a definition for it has been kept, its entry is ready with
that outcome at every later point: a request there returns the same outcome and runs
nothing, and a registration is refused and changes nothing. By
`Machine.run_eq_some_iff` the steps that lead to an end are the runs of the program. -/
theorem entry_written_once {program : Program Payload Result} {session : Session Payload}
    {events : List (Event Payload)} {last : Machine Payload Result}
    (transitions : Transitions (.start program session) events last) (slot : Slot) :
    events.countP (Event.begins slot) ≤ 1 ∧
      ∀ event ∈ events, ∀ outcome, event.settled? = some (slot, outcome) →
        last.lookup? slot = some (.ready outcome) ∧
        (last.session.registries slot.registry).state slot.type = .ready ∧
        (∀ (Found Current : Type) label
            (build : Program Payload (Attempt (Outcome Payload) × Found))
            (next : Outcome Payload × Option Found → Program Payload Current) stack held,
          last = ⟨Current, .request slot.registry slot.type label build next, stack, held⟩ →
          last.step = some (.recalled slot outcome,
            ⟨Current, next (outcome, none), stack, held⟩)) ∧
        ∀ (Current : Type) shared (next : Status → Program Payload Current) stack held,
          last = ⟨Current, .register slot.registry slot.type (some shared) next, stack, held⟩ →
          ∃ status : Status, status.kind? = some .alreadyExists ∧
            last.step = some (.refused slot, ⟨Current, next status, stack, held⟩) := by
  refine ⟨transitions.countP_begins_le_one, ?_⟩
  intro event member outcome settled
  have ready := transitions.ready_of_settled (Machine.orderly_start program session) member settled
  refine ⟨ready, ?_, ?_, ?_⟩
  · have found : (last.session.registries slot.registry).find? slot.type =
        some (.ready outcome) := ready
    rw [Registry.state, found]
  · intro Found Current label build next stack held atRequest
    subst atRequest
    exact Machine.step_request_ready slot ready
  · intro Current shared next stack held atRegistration
    subst atRegistration
    exact ⟨_, Status.kind?_failure _ _, Machine.step_register_ready slot ready⟩

/-! A build asks for another type, whose own build throws. The failure is kept for
both types, and is there when the other one is asked for again. -/

def outerSlot : Slot := ⟨⟨0, {}⟩, ⟨"outer"⟩⟩

def innerSlot : Slot := ⟨⟨0, {}⟩, ⟨"inner"⟩⟩

def nested : Program Empty Status :=
  .request outerSlot.registry outerSlot.type .empty
    (.request innerSlot.registry innerSlot.type .empty (.done (.error .unknown, ())) fun answer =>
      .done (.ok answer.1, ()))
    fun _ =>
      .request innerSlot.registry innerSlot.type .empty (.done (.error .unknown, ())) fun answer =>
        .done answer.1.status

theorem nested_failure_written_once :
    let failure : Outcome Empty := .ofBuild (.error .unknown)
    ∃ last, Transitions (.start nested {}) [.began outerSlot, .began innerSlot,
        .built innerSlot failure, .built outerSlot failure] last ∧
      last.lookup? innerSlot = some (.ready failure) ∧
      last.step = some (.recalled innerSlot failure, .finished failure.status last.session) ∧
      nested.run {} = some (failure.status, last.session) := by
  intro failure
  have transitions : Transitions (.start nested {}) [.began outerSlot, .began innerSlot,
      .built innerSlot failure, .built outerSlot failure] _ :=
    .cons rfl (.cons rfl (.cons rfl (.cons rfl (.nil _))))
  have written := (transitions.entry_written_once innerSlot).2 (.built innerSlot failure)
    (by simp) failure rfl
  have recalled := written.2.2.1 _ _ _ _ _ _ _ rfl
  exact ⟨_, transitions, written.1, recalled,
    Machine.run_eq_some_iff.mpr ⟨_, transitions.append (.cons recalled (.nil _))⟩⟩

end Transitions

end CollectionSchema
