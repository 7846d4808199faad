import CollectionSchema.Proofs.Registry.WrittenOnce

/-! # Reports

What a step writes to the journal and keeps in a registry. Only a step that keeps
an outcome writes about an entry, and it writes one record then.
-/

namespace CollectionSchema

variable {Payload Result : Type}

/-! ## Records and what they are about -/

theorem Journal.records_foldl_write (journal : Journal) (records : List LogRecord) :
    (records.foldl write journal).records =
      journal.records ++ records.filter (admits journal.minimum) := by
  induction records generalizing journal with
  | nil => exact (List.append_nil _).symm
  | cons record rest induction =>
      rw [List.foldl_cons, induction, minimum_write, records_write, List.append_assoc,
        ← List.filter_append]
      rfl

/-- A record that was handed to the journal, and the entry that it is about. A record
of client code is about none. -/
structure Report where
  about? : Option Slot
  record : LogRecord

/-- The records about an entry. -/
def Report.recordsAbout (slot : Slot) (reports : List Report) : List LogRecord :=
  (reports.filter (·.about? = some slot)).map Report.record

theorem Report.recordsAbout_append (slot : Slot) (front back : List Report) :
    recordsAbout slot (front ++ back) = recordsAbout slot front ++ recordsAbout slot back := by
  rw [recordsAbout, List.filter_append, List.map_append]
  rfl

/-- A status of success goes with a definition, and no other one does. -/
def Outcome.Coherent (outcome : Outcome Payload) : Prop :=
  outcome.status = .ok ↔ outcome.definition?.isSome = true

theorem Outcome.Coherent.definition?_eq_none_iff {outcome : Outcome Payload}
    (coherent : outcome.Coherent) : outcome.definition? = none ↔ outcome.status ≠ .ok := by
  rw [← Option.not_isSome_iff_eq_none]
  exact not_congr coherent.symm

theorem Outcome.coherent_ofBuild (attempt : Attempt (Outcome Payload)) :
    (ofBuild attempt).Coherent := by
  rcases attempt with thrown | ⟨_ | failure, _ | shared⟩
  · exact iff_of_false nofun Bool.false_ne_true
  · exact iff_of_false nofun Bool.false_ne_true
  · exact iff_of_true rfl rfl
  · exact iff_of_false nofun Bool.false_ne_true
  · exact iff_of_false nofun Bool.false_ne_true

namespace Registry

/-- The contents after an event. -/
def follow (id : RegistryId) (registry : Registry Payload) : Event Payload → Registry Payload
  | .began slot => if slot.registry = id then registry.begin slot.type else registry
  | .built slot outcome =>
      if slot.registry = id then registry.commit slot.type outcome else registry
  | .registered slot shared =>
      if slot.registry = id then registry.register slot.type shared else registry
  | .silent | .recalled _ _ | .refused _ => registry

end Registry

/-- The outcome that an event puts into an entry. -/
def Event.kept? : Event Payload → Option (Slot × Outcome Payload)
  | built slot outcome => some (slot, outcome)
  | registered slot shared => some (slot, ⟨.ok, some shared⟩)
  | silent | began _ | recalled _ _ | refused _ => none

/-! ## Steps -/

namespace Machine

/-- What a program that has ended makes the request around it write. -/
def returnReport? {Current : Type} (stack : Stack Payload Result Current) (value : Current) :
    Option Report :=
  match stack, value with
  | .empty, _ => none
  | .waiting slot label _ _, (attempt, _) =>
      some ⟨some slot, Registry.buildRecord slot.type label (.ofBuild attempt)⟩

/-- What the next step writes to the journal, whether or not it is admitted there. -/
def report? (machine : Machine Payload Result) : Option Report :=
  let ⟨_, program, stack, session⟩ := machine
  match program with
  | .done value => returnReport? stack value
  | .emit record _ => some ⟨none, record⟩
  | .register id type (some shared) _ =>
      match (session.registries id).find? type with
      | none => some ⟨some ⟨id, type⟩, Registry.registeredRecord shared.definition⟩
      | some _ => none
  | _ => none

/-- What a number of steps from here on write, in order. -/
def reports (machine : Machine Payload Result) : Nat → List Report
  | 0 => []
  | steps + 1 =>
      match machine.step with
      | none => []
      | some (_, next) => machine.report?.toList ++ next.reports steps

/-- The report of a step is about the entry that it keeps an outcome in. -/
inductive Announces : Event Payload → Option Report → Prop
  | kept {event : Event Payload} {slot : Slot} {outcome : Outcome Payload} (label : Text)
      (kept : event.kept? = some (slot, outcome)) (coherent : outcome.Coherent) :
      Announces event (some ⟨some slot, Registry.buildRecord slot.type label outcome⟩)
  | emitted {event : Event Payload} (record : LogRecord) (keepsNone : event.kept? = none) :
      Announces event (some ⟨none, record⟩)
  | nothing {event : Event Payload} (keepsNone : event.kept? = none) : Announces event none

theorem Announces.recordsAbout_of_kept {event : Event Payload} {report? : Option Report}
    (announces : Announces event report?) {slot : Slot} {outcome : Outcome Payload}
    (kept : event.kept? = some (slot, outcome)) :
    outcome.Coherent ∧ ∃ label, Report.recordsAbout slot report?.toList =
      [Registry.buildRecord slot.type label outcome] := by
  cases announces with
  | kept label same coherent =>
      rw [kept] at same
      cases same
      exact ⟨coherent, label, by simp [Report.recordsAbout]⟩
  | emitted record keepsNone =>
      rw [kept] at keepsNone
      cases keepsNone
  | nothing keepsNone =>
      rw [kept] at keepsNone
      cases keepsNone

theorem Announces.recordsAbout_of_not_kept {event : Event Payload} {report? : Option Report}
    (announces : Announces event report?) {slot : Slot}
    (notKept : ∀ outcome, event.kept? ≠ some (slot, outcome)) :
    Report.recordsAbout slot report?.toList = [] := by
  cases announces with
  | @kept other outcome label kept _ =>
      have different : other ≠ slot := fun same => notKept outcome (same ▸ kept)
      simp [Report.recordsAbout, different]
  | emitted record _ => simp [Report.recordsAbout]
  | nothing _ => rfl

/-- What a step that shows an event does to the registries and the journal. -/
structure Records (before after : Machine Payload Result) (event : Event Payload) : Prop where
  registries : ∀ id,
    after.session.registries id = (before.session.registries id).follow id event
  journal : after.session.journal =
    (before.report?.toList.map Report.record).foldl Journal.write before.session.journal
  announces : Announces event before.report?

theorem registries_change (session : Session Payload) (slot : Slot)
    (change : Registry Payload → Registry Payload) (id : RegistryId) :
    (session.setRegistry slot.registry (change (session.registries slot.registry))).registries id =
      if slot.registry = id then change (session.registries id) else session.registries id := by
  by_cases same : slot.registry = id
  · subst same
    rw [if_pos rfl, Session.registries_setRegistry_self]
  · rw [if_neg same, Session.registries_setRegistry_of_ne _ (Ne.symm same)]

theorem records_of_step {before after : Machine Payload Result} {event : Event Payload}
    (stepped : before.step = some (event, after)) : Records before after event := by
  rcases before with ⟨Current, program, stack, session⟩
  cases program with
  | done value =>
      cases stack with
      | empty => cases stepped
      | waiting slot label next outer =>
          cases stepped
          exact {
            registries := registries_change (session.write _) slot (·.commit slot.type _)
            journal := rfl
            announces := .kept label rfl (Outcome.coherent_ofBuild _) }
  | emit record next =>
      cases stepped
      exact ⟨fun _ => rfl, rfl, .emitted record rfl⟩
  | share definition next =>
      cases stepped
      exact ⟨fun _ => rfl, rfl, .nothing rfl⟩
  | request id type label build next =>
      simp only [step] at stepped
      split at stepped
      · cases stepped
        exact ⟨fun _ => rfl, rfl, .nothing rfl⟩
      · cases stepped
      · cases stepped
        exact ⟨registries_change session ⟨id, type⟩ (·.begin type), rfl, .nothing rfl⟩
  | register id type definition? next =>
      cases definition? with
      | none =>
          cases stepped
          exact ⟨fun _ => rfl, rfl, .nothing rfl⟩
      | some shared =>
          simp only [step] at stepped
          split at stepped
          · cases stepped
          · rename_i ready
            cases stepped
            have quiet : report? ⟨Current, .register id type (some shared) next, stack, session⟩ =
                none := by simp only [report?, ready]
            refine ⟨fun _ => rfl, ?_, ?_⟩
            · rw [quiet]
              rfl
            · rw [quiet]
              exact .nothing rfl
          · rename_i absent
            cases stepped
            have announced : report? ⟨Current, .register id type (some shared) next, stack,
                session⟩ = some ⟨some ⟨id, type⟩, Registry.registeredRecord shared.definition⟩ := by
              simp only [report?, absent]
            refine ⟨registries_change session ⟨id, type⟩ (·.register type shared), ?_, ?_⟩
            · rw [announced]
              rfl
            · rw [announced]
              have coherent : Outcome.Coherent ⟨.ok, some shared⟩ := iff_of_true rfl rfl
              exact .kept .empty rfl coherent
  | inspect id next =>
      cases stepped
      exact ⟨fun _ => rfl, rfl, .nothing rfl⟩

end Machine

/-! ## Runs -/

namespace Transitions

variable {first last : Machine Payload Result} {events : List (Event Payload)}

/-- What every step keeps, as events and reports go on, the steps of a run keep. -/
theorem history {Holds : List (Event Payload) → List Report → Machine Payload Result → Prop}
    (step : ∀ past earlier before event after, Holds past earlier before →
      before.step = some (event, after) →
        Holds (past ++ [event]) (earlier ++ before.report?.toList) after)
    (transitions : Transitions first events last) (past : List (Event Payload))
    (earlier : List Report) (holds : Holds past earlier first) :
    Holds (past ++ events) (earlier ++ first.reports events.length) last := by
  induction transitions generalizing past earlier with
  | nil =>
      rw [List.append_nil, List.length_nil, Machine.reports, List.append_nil]
      exact holds
  | cons stepped _ induction =>
      have later := induction _ _ (step _ _ _ _ _ holds stepped)
      rw [List.append_assoc, List.append_assoc] at later
      simp only [List.length_cons, Machine.reports, stepped]
      exact later

/-- The journal takes what the steps write, in order. -/
theorem journal_eq (transitions : Transitions first events last) :
    last.session.journal =
      ((first.reports events.length).map Report.record).foldl Journal.write
        first.session.journal := by
  induction transitions with
  | nil => rfl
  | cons stepped _ induction =>
      simp only [List.length_cons, Machine.reports, stepped]
      rw [induction, (Machine.records_of_step stepped).journal, List.map_append,
        List.foldl_append]

end Transitions

end CollectionSchema
