import CollectionSchema.Proofs.Dictionary
import CollectionSchema.Proofs.Registry.Reports

/-! # Books of a registry

What a registry shows agrees at every point of a run, also inside of a build, with
what has happened until then: which types it has been asked for, which builds have
ended, what was registered and what was written to the journal.
-/

namespace CollectionSchema

variable {Payload Result : Type}

/-! ## What has happened -/

namespace Event

def begun? : Event Payload → Option Slot
  | began slot => some slot
  | _ => none

/-- The entry that a request asks for, whether or not it runs a build. -/
def asked? : Event Payload → Option Slot
  | began slot | recalled slot _ => some slot
  | _ => none

def ended? : Event Payload → Option Slot
  | built slot _ => some slot
  | _ => none

def registered? : Event Payload → Option Slot
  | registered slot _ => some slot
  | _ => none

/-- The entry that an event asks for or writes. -/
def concerned? : Event Payload → Option Slot
  | began slot | built slot _ | recalled slot _ | registered slot _ => some slot
  | silent | refused _ => none

/-- How many events of a kind there were in a registry. -/
def countIn (part : Event Payload → Option Slot) (id : RegistryId)
    (events : List (Event Payload)) : Nat :=
  (events.filterMap part).countP (·.registry = id)

theorem countIn_concat (part : Event Payload → Option Slot) (id : RegistryId)
    (events : List (Event Payload)) (event : Event Payload) :
    countIn part id (events ++ [event]) =
      countIn part id events +
        (part event).elim 0 fun slot => if slot.registry = id then 1 else 0 := by
  rw [countIn, List.filterMap_append, List.countP_append]
  cases found : part event <;> simp [countIn, found]

section Lists

variable {part : Event Payload → Option Slot} {events : List (Event Payload)}
  {event : Event Payload} {slot : Slot}

theorem mem_filterMap_concat : slot ∈ (events ++ [event]).filterMap part ↔
    slot ∈ events.filterMap part ∨ part event = some slot := by
  rw [List.filterMap_append, List.mem_append]
  cases found : part event <;> simp [found, eq_comm]

theorem mem_concat_of_mem (listed : slot ∈ events.filterMap part) :
    slot ∈ (events ++ [event]).filterMap part :=
  mem_filterMap_concat.mpr (.inl listed)

theorem mem_concat_last (last : part event = some slot) :
    slot ∈ (events ++ [event]).filterMap part :=
  mem_filterMap_concat.mpr (.inr last)

theorem mem_of_mem_concat (listed : slot ∈ (events ++ [event]).filterMap part)
    (other : part event ≠ some slot) : slot ∈ events.filterMap part :=
  (mem_filterMap_concat.mp listed).resolve_right other

theorem asked_of_begun (begun : slot ∈ events.filterMap begun?) :
    slot ∈ events.filterMap asked? := by
  rcases List.mem_filterMap.mp begun with ⟨event, listed, same⟩
  refine List.mem_filterMap.mpr ⟨event, listed, ?_⟩
  cases event with
  | began slot => exact same
  | _ => cases same

end Lists

/-- An event that does not concern an entry neither asks for it nor writes it. -/
theorem ne_of_unconcerned {event : Event Payload} {slot : Slot}
    (unconcerned : event.concerned? ≠ some slot) :
    event.asked? ≠ some slot ∧ event.begun? ≠ some slot ∧ event.ended? ≠ some slot ∧
      event.registered? ≠ some slot ∧ ∀ outcome, event.kept? ≠ some (slot, outcome) := by
  cases event with
  | silent => exact ⟨nofun, nofun, nofun, nofun, nofun⟩
  | refused => exact ⟨nofun, nofun, nofun, nofun, nofun⟩
  | began => exact ⟨unconcerned, unconcerned, nofun, nofun, nofun⟩
  | recalled => exact ⟨unconcerned, nofun, nofun, nofun, nofun⟩
  | built =>
      refine ⟨nofun, nofun, unconcerned, nofun, fun outcome kept => unconcerned ?_⟩
      cases kept
      rfl
  | registered =>
      refine ⟨nofun, nofun, nofun, unconcerned, fun outcome kept => unconcerned ?_⟩
      cases kept
      rfl

end Event

/-! ## Counts of entries -/

def Entry.isReady : Entry Payload → Bool
  | building => false
  | ready _ => true

namespace Registry

variable {registry : Registry Payload} {type : TypeId}

theorem state_eq_unseen_iff : registry.state type = .unseen ↔ registry.find? type = none := by
  rw [state]
  split <;> simp [*]

theorem state_eq_building_iff :
    registry.state type = .building ↔ registry.find? type = some .building := by
  rw [state]
  split <;> simp [*]

theorem state_eq_ready_iff :
    registry.state type = .ready ↔ ∃ outcome, registry.find? type = some (.ready outcome) := by
  rw [state]
  split <;> simp [*]

/-- How many entries hold an outcome, of a failure or not. -/
def readyCount (registry : Registry Payload) : Nat := registry.entries.countP (·.2.isReady)

theorem readyCount_setEntry (registry : Registry Payload) (type : TypeId)
    (entry : Entry Payload) :
    (registry.setEntry type entry).readyCount +
        ((registry.find? type).elim false Entry.isReady).toNat =
      registry.readyCount + entry.isReady.toNat :=
  Dictionary.countP_set Entry.isReady type entry registry.entries

/-- No type is listed twice, and the contents account for the builds that have ended
and for the definitions that were registered. -/
structure Tallies (registry : Registry Payload) (ended registered : Nat) : Prop where
  wellFormed : Dictionary.WellFormed registry.entries
  builds : registry.buildCount = ended
  readies : registry.readyCount = ended + registered

section Tallies

variable {ended registered : Nat}

theorem Tallies.begin (tallies : registry.Tallies ended registered)
    (absent : registry.find? type = none) : (registry.begin type).Tallies ended registered := by
  have counts := registry.readyCount_setEntry type .building
  rw [absent] at counts
  exact {
    wellFormed := Dictionary.wellFormed_set tallies.wellFormed type _
    builds := tallies.builds
    readies := counts.trans tallies.readies }

theorem Tallies.commit (tallies : registry.Tallies ended registered)
    (building : registry.find? type = some .building) (outcome : Outcome Payload) :
    (registry.commit type outcome).Tallies (ended + 1) registered := by
  have counts := registry.readyCount_setEntry type (.ready outcome)
  rw [building, tallies.readies] at counts
  exact {
    wellFormed := Dictionary.wellFormed_set tallies.wellFormed type _
    builds := congrArg (· + 1) tallies.builds
    readies := counts.trans (Nat.add_right_comm ended registered 1) }

theorem Tallies.register (tallies : registry.Tallies ended registered)
    (absent : registry.find? type = none) (shared : Shared Payload) :
    (registry.register type shared).Tallies ended (registered + 1) := by
  have counts := registry.readyCount_setEntry type (.ready ⟨.ok, some shared⟩)
  rw [absent, tallies.readies] at counts
  exact {
    wellFormed := Dictionary.wellFormed_set tallies.wellFormed type _
    builds := tallies.builds
    readies := counts }

theorem Tallies.encard_ready (tallies : registry.Tallies ended registered) :
    {type | registry.state type = .ready}.encard = registry.readyCount := by
  rw [readyCount, ← Dictionary.encard_setOf_get? _ tallies.wellFormed]
  congr 1
  ext type
  rw [Set.mem_ofPred_eq, Set.mem_ofPred_eq, state_eq_ready_iff]
  constructor
  · intro ready
    rcases ready with ⟨outcome, found⟩
    exact ⟨_, found, rfl⟩
  · intro ready
    rcases ready with ⟨_ | outcome, found, holds⟩
    · cases holds
    · exact ⟨outcome, found⟩

theorem Tallies.encard_ok (tallies : registry.Tallies ended registered)
    (coherent : ∀ type outcome, registry.find? type = some (.ready outcome) → outcome.Coherent) :
    {type | ∃ outcome, registry.find? type = some (.ready outcome) ∧
      outcome.status = .ok}.encard = registry.size := by
  rw [size, ← Dictionary.encard_setOf_get? _ tallies.wellFormed]
  congr 1
  ext type
  constructor
  · intro succeeded
    rcases succeeded with ⟨outcome, found, ok⟩
    exact ⟨_, found, (coherent type outcome found).mp ok⟩
  · intro holds
    rcases holds with ⟨_ | outcome, found, defined⟩
    · cases defined
    · exact ⟨outcome, found, (coherent type outcome found).mpr defined⟩

end Tallies

end Registry

namespace Machine

/-! ## One entry

An entry is absent, then building, then ready, and at each stage it has a history of
its own. A step moves one entry on at most, and extends the history of no other. -/

/-- Nobody has asked for the entry or registered a definition for it. -/
structure Unseen (slot : Slot) (events : List (Event Payload)) (reports : List Report) :
    Prop where
  unasked : slot ∉ events.filterMap Event.asked?
  unended : slot ∉ events.filterMap Event.ended?
  unregistered : slot ∉ events.filterMap Event.registered?
  unreported : Report.recordsAbout slot reports = []

/-- A build for the entry has begun and not ended. -/
structure Underway (slot : Slot) (events : List (Event Payload)) (reports : List Report)
    (machine : Machine Payload Result) : Prop where
  running : slot ∈ machine.slots
  begun : slot ∈ events.filterMap Event.begun?
  unended : slot ∉ events.filterMap Event.ended?
  unreported : Report.recordsAbout slot reports = []

/-- The entry has its outcome, which one record tells of. -/
structure Settled (slot : Slot) (events : List (Event Payload)) (reports : List Report)
    (outcome : Outcome Payload) : Prop where
  coherent : outcome.Coherent
  known : slot ∈ events.filterMap Event.asked? ∨ slot ∈ events.filterMap Event.registered?
  finished : slot ∈ events.filterMap Event.begun? → slot ∈ events.filterMap Event.ended?
  reported : ∃ label,
    Report.recordsAbout slot reports = [Registry.buildRecord slot.type label outcome]

/-- What has happened to an entry, as far as it has come. -/
def Phase (slot : Slot) (events : List (Event Payload)) (reports : List Report)
    (machine : Machine Payload Result) : Prop :=
  match machine.lookup? slot with
  | none => Unseen slot events reports
  | some .building => Underway slot events reports machine
  | some (.ready outcome) => Settled slot events reports outcome

section Phases

variable {slot : Slot} {events : List (Event Payload)} {reports : List Report}
  {machine : Machine Payload Result}

theorem phase_iff_unseen (absent : machine.lookup? slot = none) :
    Phase slot events reports machine ↔ Unseen slot events reports := by
  rw [Phase, absent]

theorem phase_iff_underway (building : machine.lookup? slot = some .building) :
    Phase slot events reports machine ↔ Underway slot events reports machine := by
  rw [Phase, building]

theorem phase_iff_settled {outcome : Outcome Payload}
    (ready : machine.lookup? slot = some (.ready outcome)) :
    Phase slot events reports machine ↔ Settled slot events reports outcome := by
  rw [Phase, ready]

end Phases

section Steps

variable {slot : Slot} {events : List (Event Payload)} {reports : List Report}
  {before after : Machine Payload Result} {event : Event Payload}

theorem Announces.unreported (announces : Announces event before.report?)
    (notKept : ∀ outcome, event.kept? ≠ some (slot, outcome)) :
    Report.recordsAbout slot (reports ++ before.report?.toList) =
      Report.recordsAbout slot reports := by
  rw [Report.recordsAbout_append, announces.recordsAbout_of_not_kept notKept, List.append_nil]

theorem Effect.lookup?_of_unconcerned (effect : Effect before after event)
    (unconcerned : event.concerned? ≠ some slot) :
    after.lookup? slot = before.lookup? slot := by
  cases effect with
  | silent entries => rw [entries]
  | recalled _ entries => rw [entries]
  | refused entries => rw [entries]
  | began _ writes => rw [writes, if_neg fun same => unconcerned (congrArg some same.symm)]
  | built writes => rw [writes, if_neg fun same => unconcerned (congrArg some same.symm)]
  | registered _ writes => rw [writes, if_neg fun same => unconcerned (congrArg some same.symm)]

theorem Effect.running_of_unconcerned (effect : Effect before after event)
    (unconcerned : event.concerned? ≠ some slot) (running : slot ∈ before.slots) :
    slot ∈ after.slots := by
  cases effect with
  | silent _ slots => exact slots ▸ running
  | recalled _ _ slots => exact slots ▸ running
  | refused _ slots => exact slots ▸ running
  | registered _ _ slots => exact slots ▸ running
  | began _ _ slots => exact slots ▸ List.mem_cons_of_mem _ running
  | built _ slots =>
      rw [slots] at running
      rcases List.mem_cons.mp running with same | later
      · exact absurd (congrArg some same.symm) unconcerned
      · exact later

/-- A step that does not concern an entry leaves it in its phase. -/
theorem Phase.of_unconcerned (phase : Phase slot events reports before)
    (effect : Effect before after event) (announces : Announces event before.report?)
    (unconcerned : event.concerned? ≠ some slot) :
    Phase slot (events ++ [event]) (reports ++ before.report?.toList) after := by
  have same := effect.lookup?_of_unconcerned unconcerned
  rcases Event.ne_of_unconcerned unconcerned with
    ⟨notAsked, notBegun, notEnded, notRegistered, notKept⟩
  cases found : before.lookup? slot with
  | none =>
      have unseen := (phase_iff_unseen found).mp phase
      exact (phase_iff_unseen (same.trans found)).mpr {
        unasked := fun asked => unseen.unasked (Event.mem_of_mem_concat asked notAsked)
        unended := fun ended => unseen.unended (Event.mem_of_mem_concat ended notEnded)
        unregistered := fun registered =>
          unseen.unregistered (Event.mem_of_mem_concat registered notRegistered)
        unreported := (announces.unreported notKept).trans unseen.unreported }
  | some entry =>
      cases entry with
      | building =>
          have underway := (phase_iff_underway found).mp phase
          exact (phase_iff_underway (same.trans found)).mpr {
            running := effect.running_of_unconcerned unconcerned underway.running
            begun := Event.mem_concat_of_mem underway.begun
            unended := fun ended => underway.unended (Event.mem_of_mem_concat ended notEnded)
            unreported := (announces.unreported notKept).trans underway.unreported }
      | ready outcome =>
          have settled := (phase_iff_settled found).mp phase
          exact (phase_iff_settled (same.trans found)).mpr {
            coherent := settled.coherent
            known := settled.known.imp Event.mem_concat_of_mem Event.mem_concat_of_mem
            finished := fun begun => Event.mem_concat_of_mem
              (settled.finished (Event.mem_of_mem_concat begun notBegun))
            reported := settled.reported.imp fun _ => (announces.unreported notKept).trans }

theorem Unseen.began (unseen : Unseen slot events reports)
    (announces : Announces (.began slot : Event Payload) before.report?)
    (running : slot ∈ after.slots) :
    Underway slot (events ++ [.began slot]) (reports ++ before.report?.toList) after where
  running := running
  begun := Event.mem_concat_last rfl
  unended ended := unseen.unended (Event.mem_of_mem_concat ended nofun)
  unreported := (announces.unreported fun _ => nofun).trans unseen.unreported

theorem Underway.built {outcome : Outcome Payload}
    (underway : Underway slot events reports before)
    (announces : Announces (.built slot outcome) before.report?) :
    Settled slot (events ++ [.built slot outcome]) (reports ++ before.report?.toList)
      outcome where
  coherent := (announces.recordsAbout_of_kept rfl).1
  known := .inl (Event.mem_concat_of_mem (Event.asked_of_begun underway.begun))
  finished _ := Event.mem_concat_last rfl
  reported := by
    rw [Report.recordsAbout_append, underway.unreported, List.nil_append]
    exact (announces.recordsAbout_of_kept rfl).2

theorem Unseen.registered {shared : Shared Payload} (unseen : Unseen slot events reports)
    (announces : Announces (.registered slot shared) before.report?) :
    Settled slot (events ++ [.registered slot shared]) (reports ++ before.report?.toList)
      ⟨.ok, some shared⟩ where
  coherent := (announces.recordsAbout_of_kept rfl).1
  known := .inr (Event.mem_concat_last rfl)
  finished begun :=
    absurd (Event.asked_of_begun (Event.mem_of_mem_concat begun nofun)) unseen.unasked
  reported := by
    rw [Report.recordsAbout_append, unseen.unreported, List.nil_append]
    exact (announces.recordsAbout_of_kept rfl).2

theorem Settled.recalled {outcome : Outcome Payload}
    (settled : Settled slot events reports outcome)
    (announces : Announces (.recalled slot outcome) before.report?) :
    Settled slot (events ++ [.recalled slot outcome]) (reports ++ before.report?.toList)
      outcome where
  coherent := settled.coherent
  known := .inl (Event.mem_concat_last rfl)
  finished begun :=
    Event.mem_concat_of_mem (settled.finished (Event.mem_of_mem_concat begun nofun))
  reported := by
    rw [announces.unreported fun _ => nofun]
    exact settled.reported

theorem phase_of_step (orderly : before.Orderly) (stepped : before.step = some (event, after))
    (phase : Phase slot events reports before) :
    Phase slot (events ++ [event]) (reports ++ before.report?.toList) after := by
  have effect := effect_of_step stepped
  have announces := (records_of_step stepped).announces
  by_cases concerned : event.concerned? = some slot
  · cases effect with
    | silent => cases concerned
    | refused => cases concerned
    | began absent writes slots =>
        cases concerned
        have unseen := (phase_iff_unseen absent).mp phase
        have entered : after.lookup? slot = some .building := by rw [writes, if_pos rfl]
        exact (phase_iff_underway entered).mpr
          (unseen.began announces (slots ▸ List.mem_cons_self))
    | @built _ outcome writes slots =>
        cases concerned
        -- the build that ends is in progress, so its entry has no outcome yet
        have building := orderly.building slot (slots ▸ List.mem_cons_self)
        have underway := (phase_iff_underway building).mp phase
        have entered : after.lookup? slot = some (.ready outcome) := by rw [writes, if_pos rfl]
        exact (phase_iff_settled entered).mpr (underway.built announces)
    | recalled ready entries =>
        cases concerned
        have settled := (phase_iff_settled ready).mp phase
        exact (phase_iff_settled (entries ▸ ready)).mpr (settled.recalled announces)
    | @registered _ shared absent writes =>
        cases concerned
        have unseen := (phase_iff_unseen absent).mp phase
        have entered : after.lookup? slot = some (.ready ⟨.ok, some shared⟩) := by
          rw [writes, if_pos rfl]
        exact (phase_iff_settled entered).mpr (unseen.registered announces)
  · exact phase.of_unconcerned effect announces concerned

/-! ## One registry -/

theorem tallies_of_step {id : RegistryId} (orderly : before.Orderly)
    (stepped : before.step = some (event, after))
    (tallies : (before.session.registries id).Tallies
      (Event.countIn Event.ended? id events) (Event.countIn Event.registered? id events)) :
    (after.session.registries id).Tallies
      (Event.countIn Event.ended? id (events ++ [event]))
      (Event.countIn Event.registered? id (events ++ [event])) := by
  rw [(records_of_step stepped).registries id, Event.countIn_concat, Event.countIn_concat]
  cases effect_of_step stepped with
  | silent => exact tallies
  | recalled => exact tallies
  | refused => exact tallies
  | @began slot absent =>
      by_cases same : slot.registry = id
      · subst same
        simp only [Registry.follow, if_true]
        exact tallies.begin absent
      · simp only [Registry.follow, if_neg same]
        exact tallies
  | @built slot outcome _ slots =>
      have building := orderly.building slot (slots ▸ List.mem_cons_self)
      by_cases same : slot.registry = id
      · subst same
        simp only [Registry.follow, Event.ended?, Option.elim, if_true]
        exact tallies.commit building outcome
      · simp only [Registry.follow, Event.ended?, Option.elim, if_neg same]
        exact tallies
  | @registered slot shared absent =>
      by_cases same : slot.registry = id
      · subst same
        simp only [Registry.follow, Event.registered?, Option.elim, if_true]
        exact tallies.register absent shared
      · simp only [Registry.follow, Event.registered?, Option.elim, if_neg same]
        exact tallies

/-- What every step keeps of a registry that was empty at the start. The builds in
progress carry it over the steps of nested builds. -/
structure Books (id : RegistryId) (events : List (Event Payload)) (reports : List Report)
    (machine : Machine Payload Result) : Prop where
  orderly : machine.Orderly
  phase : ∀ type, Phase ⟨id, type⟩ events reports machine
  tallies : (machine.session.registries id).Tallies
    (Event.countIn Event.ended? id events) (Event.countIn Event.registered? id events)

theorem books_of_step {id : RegistryId} (books : Books id events reports before)
    (stepped : before.step = some (event, after)) :
    Books id (events ++ [event]) (reports ++ before.report?.toList) after where
  orderly := orderly_of_step books.orderly stepped
  phase type := phase_of_step books.orderly stepped (books.phase type)
  tallies := tallies_of_step books.orderly stepped books.tallies

theorem books_start {id : RegistryId} {session : Session Payload}
    (fresh : session.registries id = {}) (program : Program Payload Result) :
    Books id [] [] (start program session) where
  orderly := orderly_start program session
  phase type := by
    have absent : (start program session).lookup? ⟨id, type⟩ = none := by
      rw [lookup?, start, Session.lookup?, fresh]
      rfl
    exact (phase_iff_unseen absent).mpr
      ⟨List.not_mem_nil, List.not_mem_nil, List.not_mem_nil, rfl⟩
  tallies := by
    change (session.registries id).Tallies 0 0
    rw [fresh]
    exact ⟨List.nodup_nil, rfl, rfl⟩

end Steps

/-! ## What a registry shows -/

/-- What a registry shows of its types, told from what has happened until then. -/
structure Accounts (id : RegistryId) (events : List (Event Payload)) (reports : List Report)
    (machine : Machine Payload Result) : Prop where
  building : ∀ type,
    (machine.session.registries id).state type = .building ↔ ⟨id, type⟩ ∈ machine.slots
  running : ∀ type, ⟨id, type⟩ ∈ machine.slots ↔
    ⟨id, type⟩ ∈ events.filterMap Event.begun? ∧ ⟨id, type⟩ ∉ events.filterMap Event.ended?
  unseen : ∀ type, (machine.session.registries id).state type = .unseen ↔
    ⟨id, type⟩ ∉ events.filterMap Event.asked? ∧
      ⟨id, type⟩ ∉ events.filterMap Event.registered?
  coherent : ∀ type outcome,
    (machine.session.registries id).find? type = some (.ready outcome) → outcome.Coherent
  reported : ∀ type outcome,
    (machine.session.registries id).find? type = some (.ready outcome) →
      ∃ label, Report.recordsAbout ⟨id, type⟩ reports =
          [Registry.buildRecord type label outcome] ∧
        (Registry.buildRecord type label outcome).level =
          if outcome.status = .ok then .info else .warning
  unreported : ∀ type, (machine.session.registries id).state type ≠ .ready →
    Report.recordsAbout ⟨id, type⟩ reports = []
  size : ((machine.session.registries id).size : ℕ∞) =
    {type | ∃ outcome, (machine.session.registries id).find? type = some (.ready outcome) ∧
      outcome.status = .ok}.encard
  builds : (machine.session.registries id).buildCount = Event.countIn Event.ended? id events
  readies : ((machine.session.registries id).buildCount +
      Event.countIn Event.registered? id events : ℕ) =
    {type | (machine.session.registries id).state type = .ready}.encard

section Accounts

variable {id : RegistryId} {events : List (Event Payload)} {reports : List Report}
  {machine : Machine Payload Result}

theorem Books.unseen (books : Books id events reports machine) {type : TypeId}
    (absent : machine.lookup? ⟨id, type⟩ = none) : Unseen ⟨id, type⟩ events reports :=
  (phase_iff_unseen absent).mp (books.phase type)

theorem Books.underway (books : Books id events reports machine) {type : TypeId}
    (building : machine.lookup? ⟨id, type⟩ = some .building) :
    Underway ⟨id, type⟩ events reports machine :=
  (phase_iff_underway building).mp (books.phase type)

theorem Books.settled (books : Books id events reports machine) {type : TypeId}
    {outcome : Outcome Payload} (ready : machine.lookup? ⟨id, type⟩ = some (.ready outcome)) :
    Settled ⟨id, type⟩ events reports outcome :=
  (phase_iff_settled ready).mp (books.phase type)

theorem Books.mem_slots_iff (books : Books id events reports machine) {type : TypeId} :
    ⟨id, type⟩ ∈ machine.slots ↔ machine.lookup? ⟨id, type⟩ = some .building := by
  constructor
  · intro listed
    exact books.orderly.building _ listed
  · intro building
    exact (books.underway building).running

theorem Books.mem_slots_iff_begun (books : Books id events reports machine) {type : TypeId} :
    ⟨id, type⟩ ∈ machine.slots ↔ ⟨id, type⟩ ∈ events.filterMap Event.begun? ∧
      ⟨id, type⟩ ∉ events.filterMap Event.ended? := by
  rw [books.mem_slots_iff]
  constructor
  · intro building
    exact ⟨(books.underway building).begun, (books.underway building).unended⟩
  · intro unfinished
    cases found : machine.lookup? ⟨id, type⟩ with
    | none =>
        exact absurd (Event.asked_of_begun unfinished.1) (books.unseen found).unasked
    | some entry =>
        cases entry with
        | building => rfl
        | ready outcome =>
            exact absurd ((books.settled found).finished unfinished.1) unfinished.2

theorem Books.lookup?_eq_none_iff (books : Books id events reports machine) {type : TypeId} :
    machine.lookup? ⟨id, type⟩ = none ↔ ⟨id, type⟩ ∉ events.filterMap Event.asked? ∧
      ⟨id, type⟩ ∉ events.filterMap Event.registered? := by
  constructor
  · intro absent
    exact ⟨(books.unseen absent).unasked, (books.unseen absent).unregistered⟩
  · intro unknown
    cases found : machine.lookup? ⟨id, type⟩ with
    | none => rfl
    | some entry =>
        cases entry with
        | building =>
            exact absurd (Event.asked_of_begun (books.underway found).begun) unknown.1
        | ready outcome => exact absurd (books.settled found).known (not_or.mpr unknown)

theorem level_buildRecord {outcome : Outcome Payload} (coherent : outcome.Coherent)
    (type : TypeId) (label : Text) :
    (Registry.buildRecord type label outcome).level =
      if outcome.status = .ok then .info else .warning := by
  rcases outcome with ⟨status, _ | shared⟩
  · rw [if_neg fun ok => Bool.false_ne_true (coherent.mp ok)]
    rfl
  · rw [if_pos (coherent.mpr rfl)]
    rfl

theorem Books.accounts (books : Books id events reports machine) :
    Accounts id events reports machine := by
  have settled : ∀ type outcome,
      (machine.session.registries id).find? type = some (.ready outcome) →
        Settled ⟨id, type⟩ events reports outcome := fun type outcome ready =>
    books.settled ready
  exact {
    building := fun type => Registry.state_eq_building_iff.trans books.mem_slots_iff.symm
    running := fun type => books.mem_slots_iff_begun
    unseen := fun type => Registry.state_eq_unseen_iff.trans books.lookup?_eq_none_iff
    coherent := fun type outcome ready => (settled type outcome ready).coherent
    reported := fun type outcome ready => by
      rcases (settled type outcome ready).reported with ⟨label, reported⟩
      have level := level_buildRecord (settled type outcome ready).coherent type label
      exact ⟨label, reported, level⟩
    unreported := fun type notReady => by
      cases found : machine.lookup? ⟨id, type⟩ with
      | none => exact (books.unseen found).unreported
      | some entry =>
          cases entry with
          | building => exact (books.underway found).unreported
          | ready outcome =>
              exact absurd (Registry.state_eq_ready_iff.mpr ⟨outcome, found⟩) notReady
    size := by
      rw [books.tallies.encard_ok fun type outcome ready => (settled type outcome ready).coherent]
    builds := books.tallies.builds
    readies := by
      rw [books.tallies.encard_ready, books.tallies.readies, books.tallies.builds] }

end Accounts

end Machine

namespace Transitions

/-- At every point of every run, also inside of a build, a registry that was empty at
the start shows what has happened until then, and the journal has taken the reports
that it admits. Whoever was told of an outcome got a definition exactly if all was
well. Registering no definition changes nothing. -/
theorem accounts_agree {program : Program Payload Result} {session : Session Payload}
    {events : List (Event Payload)} {last : Machine Payload Result}
    (transitions : Transitions (.start program session) events last) {id : RegistryId}
    (fresh : session.registries id = {}) :
    let reports := (Machine.start program session).reports events.length
    last.Accounts id events reports ∧
      last.session.journal.records = session.journal.records ++
        (reports.map Report.record).filter (Journal.admits session.journal.minimum) ∧
      (∀ event ∈ events, ∀ type outcome, event.settled? = some (⟨id, type⟩, outcome) →
        (outcome.definition? = none ↔ outcome.status ≠ .ok)) ∧
      ∀ (Current : Type) type (next : Status → Program Payload Current) stack held,
        last = ⟨Current, .register id type none next, stack, held⟩ →
        ∃ status : Status, status.kind? = some .unexpected ∧
          last.step = some (.silent, ⟨Current, next status, stack, held⟩) := by
  intro reports
  have books : last.Books id events reports :=
    transitions.history (fun _ _ _ _ _ holds stepped => Machine.books_of_step holds stepped)
      [] [] (Machine.books_start fresh program)
  refine ⟨books.accounts, ?_, ?_, ?_⟩
  · rw [transitions.journal_eq, Journal.records_foldl_write]
    rfl
  · intro event listed type outcome settled
    have ready := transitions.ready_of_settled (Machine.orderly_start program session)
      listed settled
    exact (books.settled ready).coherent.definition?_eq_none_iff
  · intro Current type next stack held atRegistration
    subst atRegistration
    exact ⟨_, Status.kind?_failure _ _, rfl⟩

/-! Inside of a build that has asked for a type whose build throws, and has then
registered a definition for a third type. -/

def registeredSlot : Slot := ⟨⟨0, {}⟩, ⟨"registered"⟩⟩

def idDefinition : Shared Empty where
  identity := 0
  definition := {
    name := "ids"
    fields := [.key "id" .string]
    keyIndex := 0
    keyIndex_lt := Nat.zero_lt_one
    containerMode := false
    hooks? := none }

def registering : Program Empty Status :=
  .request outerSlot.registry outerSlot.type .empty
    (.request innerSlot.registry innerSlot.type .empty (.done (.error .unknown, ())) fun answer =>
      .register registeredSlot.registry registeredSlot.type (some idDefinition) fun _ =>
        .done (.ok answer.1, ()))
    fun answer => .done answer.1.status

theorem accounts_agree_inside_build :
    ∃ last, Transitions (.start registering {}) [.began outerSlot, .began innerSlot,
        .built innerSlot (.ofBuild (.error .unknown)), .registered registeredSlot idDefinition]
        last ∧
      (last.session.registries outerSlot.registry).state outerSlot.type = .building ∧
      (last.session.registries outerSlot.registry).buildCount = 1 ∧
      {type | (last.session.registries outerSlot.registry).state type = .ready}.encard = 2 := by
  have transitions : Transitions (.start registering {}) [.began outerSlot, .began innerSlot,
      .built innerSlot (.ofBuild (.error .unknown)), .registered registeredSlot idDefinition] _ :=
    .cons rfl (.cons rfl (.cons rfl (.cons rfl (.nil _))))
  have fresh : (({} : Session Empty).registries outerSlot.registry) = {} := rfl
  have accounts := (transitions.accounts_agree fresh).1
  have builds := accounts.builds
  have readies := accounts.readies
  rw [builds] at readies
  exact ⟨_, transitions, (accounts.building outerSlot.type).mpr List.mem_cons_self, builds,
    readies.symm⟩

end Transitions

end CollectionSchema
