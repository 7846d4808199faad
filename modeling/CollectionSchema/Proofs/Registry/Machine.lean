import CollectionSchema.Registry.Program

/-! # Programs step by step

A run of a program as a sequence of single requests, with the builds in progress
on a stack. The steps of a program lead to an end exactly if it runs, and they
end where its run does.
-/

namespace CollectionSchema

variable {Payload Result : Type}

/-! ## States -/

/-- The place of one entry: a type in a registry. -/
structure Slot where
  registry : RegistryId
  type : TypeId
deriving DecidableEq

/-- The requests that wait for a build of theirs, the innermost first. -/
inductive Stack (Payload Result : Type) : Type → Type 1
  | empty : Stack Payload Result Result
  | waiting {Found Value : Type} (slot : Slot) (label : Text)
      (next : Outcome Payload × Option Found → Program Payload Value)
      (outer : Stack Payload Result Value) :
      Stack Payload Result (Attempt (Outcome Payload) × Found)

/-- The entries that are being built. -/
def Stack.slots {Current : Type} : Stack Payload Result Current → List Slot
  | empty => []
  | waiting slot _ _ outer => slot :: outer.slots

structure Machine (Payload Result : Type) where
  Current : Type
  program : Program Payload Current
  stack : Stack Payload Result Current
  session : Session Payload

def Session.lookup? (session : Session Payload) (slot : Slot) : Option (Entry Payload) :=
  (session.registries slot.registry).find? slot.type

/-- The session with the outcome of a build that has ended. -/
def Session.keep (session : Session Payload) (slot : Slot) (label : Text)
    (outcome : Outcome Payload) : Session Payload :=
  (session.write (Registry.buildRecord slot.type label outcome)).setRegistry slot.registry
    ((session.registries slot.registry).commit slot.type outcome)

/-! ## Steps -/

/-- What a step shows. An outcome is `built` when its build ends, and `recalled`
when it was there already. -/
inductive Event (Payload : Type)
  | silent
  | began (slot : Slot)
  | built (slot : Slot) (outcome : Outcome Payload)
  | recalled (slot : Slot) (outcome : Outcome Payload)
  | registered (slot : Slot) (shared : Shared Payload)
  | refused (slot : Slot)

namespace Machine

def start (program : Program Payload Result) (session : Session Payload) :
    Machine Payload Result :=
  ⟨Result, program, .empty, session⟩

def finished (value : Result) (session : Session Payload) : Machine Payload Result :=
  start (.done value) session

/-- The step of a program that has ended: its value goes to the request around it. -/
def resume {Current : Type} (stack : Stack Payload Result Current) (value : Current)
    (session : Session Payload) : Option (Event Payload × Machine Payload Result) :=
  match stack, value with
  | .empty, _ => none
  | .waiting slot label next outer, (attempt, found) =>
      let outcome := Outcome.ofBuild attempt
      some (.built slot outcome,
        ⟨_, next (outcome, some found), outer, session.keep slot label outcome⟩)

/-- There is no step from the end, nor where a build waits on itself. -/
def step (machine : Machine Payload Result) :
    Option (Event Payload × Machine Payload Result) :=
  let ⟨_, program, stack, session⟩ := machine
  match program with
  | .done value => resume stack value session
  | .emit record next => some (.silent, ⟨_, next, stack, session.write record⟩)
  | .share definition next =>
      some (.silent, ⟨_, next ⟨session.nextIdentity, definition⟩, stack,
        { session with nextIdentity := session.nextIdentity + 1 }⟩)
  | .request id type label build next =>
      match (session.registries id).find? type with
      | some (.ready outcome) =>
          some (.recalled ⟨id, type⟩ outcome, ⟨_, next (outcome, none), stack, session⟩)
      | some .building => none
      | none =>
          some (.began ⟨id, type⟩, ⟨_, build, .waiting ⟨id, type⟩ label next stack,
            session.setRegistry id ((session.registries id).begin type)⟩)
  | .register _ _ none next =>
      some (.silent, ⟨_, next Registry.RegisterError.noDefinition.status, stack, session⟩)
  | .register id type (some shared) next =>
      match (session.registries id).find? type with
      | some .building => none
      | some (.ready _) =>
          some (.refused ⟨id, type⟩,
            ⟨_, next (Registry.RegisterError.alreadyPresent type).status, stack, session⟩)
      | none =>
          some (.registered ⟨id, type⟩ shared, ⟨_, next .ok, stack,
            (session.setRegistry id ((session.registries id).register type shared)).write
              (Registry.registeredRecord shared.definition)⟩)
  | .inspect id next => some (.silent, ⟨_, next (session.registries id), stack, session⟩)

/-! A request or a registration goes by what its slot holds. -/

section Slots

variable {Found Current : Type} (slot : Slot) {session : Session Payload}
  {outcome : Outcome Payload} {stack : Stack Payload Result Current}

theorem step_request_ready {label : Text}
    {build : Program Payload (Attempt (Outcome Payload) × Found)}
    {next : Outcome Payload × Option Found → Program Payload Current}
    (ready : session.lookup? slot = some (.ready outcome)) :
    step ⟨Current, .request slot.registry slot.type label build next, stack, session⟩ =
      some (.recalled slot outcome, ⟨Current, next (outcome, none), stack, session⟩) := by
  simp only [Session.lookup?] at ready
  simp only [step, ready]

theorem step_request_absent {label : Text}
    {build : Program Payload (Attempt (Outcome Payload) × Found)}
    {next : Outcome Payload × Option Found → Program Payload Current}
    (absent : session.lookup? slot = none) :
    step ⟨Current, .request slot.registry slot.type label build next, stack, session⟩ =
      some (.began slot, ⟨_, build, .waiting slot label next stack,
        session.setRegistry slot.registry
          ((session.registries slot.registry).begin slot.type)⟩) := by
  simp only [Session.lookup?] at absent
  simp only [step, absent]

theorem step_register_ready {shared : Shared Payload}
    {next : Status → Program Payload Current}
    (ready : session.lookup? slot = some (.ready outcome)) :
    step ⟨Current, .register slot.registry slot.type (some shared) next, stack, session⟩ =
      some (.refused slot,
        ⟨_, next (Registry.RegisterError.alreadyPresent slot.type).status, stack, session⟩) := by
  simp only [Session.lookup?] at ready
  simp only [step, ready]

theorem step_register_absent {shared : Shared Payload}
    {next : Status → Program Payload Current} (absent : session.lookup? slot = none) :
    step ⟨Current, .register slot.registry slot.type (some shared) next, stack, session⟩ =
      some (.registered slot shared, ⟨_, next .ok, stack,
        (session.setRegistry slot.registry
          ((session.registries slot.registry).register slot.type shared)).write
          (Registry.registeredRecord shared.definition)⟩) := by
  simp only [Session.lookup?] at absent
  simp only [step, absent]

end Slots

end Machine

inductive Transitions :
    Machine Payload Result → List (Event Payload) → Machine Payload Result → Prop
  | nil (machine : Machine Payload Result) : Transitions machine [] machine
  | cons {first middle last : Machine Payload Result} {event : Event Payload}
      {events : List (Event Payload)} (step : first.step = some (event, middle))
      (rest : Transitions middle events last) : Transitions first (event :: events) last

theorem Transitions.append {first middle last : Machine Payload Result}
    {front back : List (Event Payload)} (before : Transitions first front middle)
    (after : Transitions middle back last) : Transitions first (front ++ back) last := by
  induction before with
  | nil => exact after
  | cons step _ induction => exact .cons step (induction after)

/-! ## Steps and runs

What a machine comes to is the run of its program, then that of every request
around it. A step leaves it as it is. -/

namespace Machine

/-- The run of the requests on a stack, after a value for the innermost one. -/
def runStack {Current : Type} (stack : Stack Payload Result Current) (value : Current)
    (session : Session Payload) : Option (Result × Session Payload) :=
  match stack, value with
  | .empty, value => some (value, session)
  | .waiting slot label next outer, (attempt, found) =>
      let outcome := Outcome.ofBuild attempt
      ((next (outcome, some found)).run (session.keep slot label outcome)).bind fun result =>
        runStack outer result.1 result.2

def run (machine : Machine Payload Result) : Option (Result × Session Payload) :=
  (machine.program.run machine.session).bind fun result =>
    runStack machine.stack result.1 result.2

theorem run_start (program : Program Payload Result) (session : Session Payload) :
    (start program session).run = program.run session := by
  change ((program.run session).bind fun result => some (result.1, result.2)) = _
  exact Option.bind_fun_some _

theorem run_eq_of_step {machine next : Machine Payload Result} {event : Event Payload}
    (stepped : machine.step = some (event, next)) : machine.run = next.run := by
  rcases machine with ⟨Current, program, stack, session⟩
  cases program with
  | done value =>
      cases stack with
      | empty => cases stepped
      | waiting slot label following outer =>
          cases stepped
          rfl
  | emit record following =>
      cases stepped
      rfl
  | share definition following =>
      cases stepped
      rfl
  | request id type label build following =>
      simp only [step] at stepped
      split at stepped
      · rename_i outcome found
        cases stepped
        simp only [run, Program.run, found]
      · cases stepped
      · rename_i absent
        cases stepped
        simp only [run, Program.run, absent]
        cases build.run (session.setRegistry id ((session.registries id).begin type)) <;> rfl
  | register id type definition? following =>
      cases definition? with
      | none =>
          cases stepped
          rfl
      | some shared =>
          simp only [step] at stepped
          split at stepped
          · cases stepped
          · rename_i found
            cases stepped
            simp only [run, Program.run, found]
          · rename_i absent
            cases stepped
            simp only [run, Program.run, absent]
  | inspect id following =>
      cases stepped
      rfl

theorem run_eq_of_transitions {first last : Machine Payload Result}
    {events : List (Event Payload)} (transitions : Transitions first events last) :
    first.run = last.run := by
  induction transitions with
  | nil => rfl
  | cons step _ induction => exact (run_eq_of_step step).trans induction

/-- The steps of a program that runs, whatever requests wait for it. -/
theorem transitions_of_run {Current : Type} {program : Program Payload Current}
    {session final : Session Payload} {value : Current}
    (ran : program.run session = some (value, final))
    (stack : Stack Payload Result Current) :
    ∃ events, Transitions ⟨Current, program, stack, session⟩ events
      ⟨Current, .done value, stack, final⟩ := by
  induction program generalizing session final with
  | done given =>
      cases ran
      exact ⟨[], .nil _⟩
  | emit record next induction =>
      rcases induction ran stack with ⟨events, rest⟩
      exact ⟨_, .cons rfl rest⟩
  | share definition next induction =>
      rcases induction _ ran stack with ⟨events, rest⟩
      exact ⟨_, .cons rfl rest⟩
  | request id type label build next buildInduction induction =>
      simp only [Program.run] at ran
      split at ran
      · rename_i outcome found
        rcases induction _ ran stack with ⟨events, rest⟩
        exact ⟨_, .cons (step_request_ready ⟨id, type⟩ found) rest⟩
      · cases ran
      · rename_i absent
        split at ran
        · cases ran
        · rename_i attempt found built buildRan
          rcases buildInduction buildRan (.waiting ⟨id, type⟩ label next stack) with
            ⟨before, inner⟩
          rcases induction _ ran stack with ⟨after, rest⟩
          exact ⟨_, .cons (step_request_absent ⟨id, type⟩ absent)
            (inner.append (.cons rfl rest))⟩
  | register id type definition? next induction =>
      cases definition? with
      | none =>
          rcases induction _ ran stack with ⟨events, rest⟩
          exact ⟨_, .cons rfl rest⟩
      | some shared =>
          simp only [Program.run] at ran
          split at ran
          · cases ran
          · rename_i ready
            rcases induction _ ran stack with ⟨events, rest⟩
            exact ⟨_, .cons (step_register_ready ⟨id, type⟩ ready) rest⟩
          · rename_i absent
            rcases induction _ ran stack with ⟨events, rest⟩
            exact ⟨_, .cons (step_register_absent ⟨id, type⟩ absent) rest⟩
  | inspect id next induction =>
      rcases induction _ ran stack with ⟨events, rest⟩
      exact ⟨_, .cons rfl rest⟩

/-- A program runs to an end exactly if its steps lead there. -/
theorem run_eq_some_iff {program : Program Payload Result} {session final : Session Payload}
    {value : Result} :
    program.run session = some (value, final) ↔
      ∃ events, Transitions (start program session) events (finished value final) := by
  constructor
  · intro ran
    exact transitions_of_run ran .empty
  · intro reached
    rcases reached with ⟨events, transitions⟩
    have same := run_eq_of_transitions transitions
    rw [run_start] at same
    exact same

end Machine

end CollectionSchema
