import CollectionSchema.Proofs.Registry.WrittenOnce

/-! # Operations on an entry

What client code asks of an entry, and what it is told. The answer depends on nothing
but the content that the entry holds, and no other entry is touched.
-/

namespace CollectionSchema

variable {Payload : Type}

/-! ## Contents -/

/-- What an outcome says, whichever object its definition is. -/
structure Content (Payload : Type) where
  status : Status
  definition? : Option (CollectionDefinition Payload)

def Outcome.content (outcome : Outcome Payload) : Content Payload :=
  ⟨outcome.status, outcome.definition?.map Shared.definition⟩

/-- What there is to say of an extraction, also of one that throws. -/
def Content.ofExtraction (options : ValidationOptions) {recordType : RecordType}
    (describe : Attempt (RecordDescriptor recordType)) : Content Payload :=
  match describe with
  | .error thrown => ⟨.failure .unexpected ("Build function failed: " ++ thrown.text), none⟩
  | .ok descriptor =>
      match descriptor.extract options with
      | .ok definition => ⟨.ok, some definition⟩
      | .error error => ⟨error.status, none⟩

/-! ## Builds without requests -/

/-- The build asks nothing of any registry, and the content of its outcome does not hang
on the identities of the objects that it makes. -/
inductive Program.ComesTo {Found : Type} (content : Content Payload) :
    Program Payload (Attempt (Outcome Payload) × Found) → Prop
  | done {attempt : Attempt (Outcome Payload)} {found : Found}
      (same : (Outcome.ofBuild attempt).content = content) :
      ComesTo content (.done (attempt, found))
  | emit {record : LogRecord} {next : Program Payload (Attempt (Outcome Payload) × Found)}
      (rest : ComesTo content next) : ComesTo content (.emit record next)
  | share {definition : CollectionDefinition Payload}
      {next : Shared Payload → Program Payload (Attempt (Outcome Payload) × Found)}
      (rest : ∀ identity, ComesTo content (next ⟨identity, definition⟩)) :
      ComesTo content (.share definition next)

structure PlainBuild (Payload : Type) where
  Found : Type
  program : Program Payload (Attempt (Outcome Payload) × Found)
  content : Content Payload
  comesTo : program.ComesTo content

namespace PlainBuild

def throwing (thrown : Thrown) : PlainBuild Payload where
  Found := Unit
  program := .done (.error thrown, ())
  content := (Outcome.ofBuild (.error thrown)).content
  comesTo := .done rfl

/-- The build makes an object of a definition that is at hand. -/
def sharing (definition : CollectionDefinition Payload) : PlainBuild Payload where
  Found := Unit
  program := .share definition fun shared => .done (.ok ⟨.ok, some shared⟩, ())
  content := ⟨.ok, some definition⟩
  comesTo := .share fun _ => .done rfl

end PlainBuild

/-- Such a build runs to an end, and leaves all registries as they are. -/
theorem Program.ComesTo.runs {Found : Type} {content : Content Payload}
    {build : Program Payload (Attempt (Outcome Payload) × Found)}
    (comesTo : build.ComesTo content) (session : Session Payload) :
    ∃ attempt found final, build.run session = some ((attempt, found), final) ∧
      (Outcome.ofBuild attempt).content = content ∧ final.registries = session.registries := by
  induction comesTo generalizing session with
  | @done attempt found same => exact ⟨attempt, found, session, rfl, same, rfl⟩
  | @emit record next _ induction => exact induction (session.write record)
  | @share definition next _ induction =>
      exact induction session.nextIdentity
        { session with nextIdentity := session.nextIdentity + 1 }

/-- Extracting a definition asks nothing of any registry. -/
theorem Program.comesTo_extraction {recordType : RecordType} (options : ValidationOptions)
    (descriptor : RecordDescriptor recordType) :
    ComesTo (.ofExtraction options (.ok descriptor) : Content Payload)
      ((define (descriptor.extract options)).bind fun outcome => .done (.ok outcome, ())) := by
  rw [Content.ofExtraction]
  cases (descriptor.extract options : Except DefinitionError (CollectionDefinition Payload)) with
  | ok definition => exact .share fun identity => .done rfl
  | error error =>
      cases error with
      | marking error => exact .done rfl
      | document error => exact .done rfl
      | invalid name error => exact .emit (.done rfl)

/-! ## What entries hold -/

namespace Session

/-- The slot has no entry, or an outcome of the given content. -/
def Holds (session : Session Payload) (slot : Slot) : Option (Content Payload) → Prop
  | none => session.lookup? slot = none
  | some content => ∃ outcome, session.lookup? slot = some (.ready outcome) ∧
      outcome.content = content

theorem Holds.of_lookup?_eq {before after : Session Payload} {slot : Slot}
    {held : Option (Content Payload)} (holds : before.Holds slot held)
    (same : after.lookup? slot = before.lookup? slot) : after.Holds slot held := by
  cases held with
  | none => exact same.trans holds
  | some content =>
      rcases holds with ⟨outcome, ready, told⟩
      exact ⟨outcome, same.trans ready, told⟩

end Session

/-! ## Actions -/

/-- What is asked of an entry. -/
inductive Action (Payload : Type) : Type 1
  | get {recordType : RecordType} (describe : Attempt (RecordDescriptor recordType))
  | getOrCreate (label : Text) (build : PlainBuild Payload)
  | register (definition? : Option (Shared Payload))
  | getState

/-- What is told, but for the identity of a definition. -/
inductive Answer (Payload : Type)
  | content (content : Content Payload)
  | status (status : Status)
  | state (state : DefinitionState)

namespace Action

def program (slot : Slot) : Action Payload → Program Payload (Answer Payload)
  | get describe =>
      (Program.get slot.registry slot.type describe).bind fun outcome =>
        .done (.content outcome.content)
  | getOrCreate label build =>
      .request slot.registry slot.type label build.program fun answer =>
        .done (.content answer.1.content)
  | register definition? =>
      .register slot.registry slot.type definition? fun status => .done (.status status)
  | getState =>
      .inspect slot.registry fun registry => .done (.state (registry.state slot.type))

/-- The content that the action puts into an entry that is absent. -/
def kept? (options : ValidationOptions) : Action Payload → Option (Content Payload)
  | get describe => some (.ofExtraction options describe)
  | getOrCreate _ build => some build.content
  | register definition? => definition?.map fun shared => ⟨.ok, some shared.definition⟩
  | getState => none

/-- The answer where the entry holds a content, or is absent. -/
def answer (slot : Slot) (held : Option (Content Payload)) : Action Payload → Answer Payload
  | get describe => .content (held.getD (.ofExtraction slot.registry.options describe))
  | getOrCreate _ build => .content (held.getD build.content)
  | register none => .status Registry.RegisterError.noDefinition.status
  | register (some _) =>
      .status
        (if held.isSome then (Registry.RegisterError.alreadyPresent slot.type).status else .ok)
  | getState => .state (if held.isSome then .ready else .unseen)

/-! ## Runs of one action -/

/-- The program runs to an end with the answer, after which the slot holds the content. No
other slot is touched. -/
def Gives (slot : Slot) (session : Session Payload) (program : Program Payload (Answer Payload))
    (answer : Answer Payload) (held : Option (Content Payload)) : Prop :=
  ∃ final, program.run session = some (answer, final) ∧ final.Holds slot held ∧
    ∀ other, other ≠ slot → final.lookup? other = session.lookup? other

section

variable (slot : Slot) {session : Session Payload} {held : Option (Content Payload)}

theorem gives_request {Found : Type} {content : Content Payload}
    {build : Program Payload (Attempt (Outcome Payload) × Found)}
    (comesTo : build.ComesTo content) (label : Text) (holds : session.Holds slot held) :
    Gives slot session (.request slot.registry slot.type label build fun answer =>
      .done (.content answer.1.content)) (.content (held.getD content))
      (held.or (some content)) := by
  cases held with
  | some recalled =>
      rcases holds with ⟨outcome, ready, rfl⟩
      refine ⟨session, ?_, ⟨outcome, ready, rfl⟩, fun _ _ => rfl⟩
      rw [Session.lookup?] at ready
      simp only [Program.run, ready]
      rfl
  | none =>
      -- the build runs with its own slot marked, and finds and leaves all others as they were
      rcases comesTo.runs (session.setRegistry slot.registry
        ((session.registries slot.registry).begin slot.type)) with
        ⟨attempt, found, built, ran, rfl, registries⟩
      have begun : ∀ other, (session.setRegistry slot.registry
          ((session.registries slot.registry).begin slot.type)).lookup? other =
          if other = slot then some .building else session.lookup? other :=
        Machine.lookup?_setRegistry slot rfl
      have kept : ∀ other, (built.keep slot label (.ofBuild attempt)).lookup? other =
          if other = slot then some (.ready (.ofBuild attempt)) else built.lookup? other :=
        Machine.lookup?_setRegistry slot rfl
      refine ⟨built.keep slot label (.ofBuild attempt), ?_, ⟨.ofBuild attempt, ?_, rfl⟩, ?_⟩
      · rw [Session.Holds, Session.lookup?] at holds
        simp only [Program.run, holds, ran]
        rfl
      · rw [kept, if_pos rfl]
      · intro other different
        rw [kept, if_neg different, Session.lookup?, registries]
        exact (begun other).trans (if_neg different)

theorem gives_register (definition? : Option (Shared Payload))
    (holds : session.Holds slot held) :
    Gives slot session ((register definition?).program slot)
      ((register definition?).answer slot held)
      (held.or ((register definition?).kept? slot.registry.options)) := by
  cases definition? with
  | none => exact ⟨session, rfl, (Option.or_none (o := held)).symm ▸ holds, fun _ _ => rfl⟩
  | some shared =>
      cases held with
      | some content =>
          rcases holds with ⟨outcome, ready, rfl⟩
          refine ⟨session, ?_, ⟨outcome, ready, rfl⟩, fun _ _ => rfl⟩
          rw [Session.lookup?] at ready
          simp only [program, Program.run, ready]
          rfl
      | none =>
          have kept : ∀ other, ((session.setRegistry slot.registry
              ((session.registries slot.registry).register slot.type shared)).write
                (Registry.registeredRecord shared.definition)).lookup? other =
              if other = slot then some (.ready ⟨.ok, some shared⟩) else session.lookup? other :=
            Machine.lookup?_setRegistry slot rfl
          refine ⟨_, ?_, ⟨⟨.ok, some shared⟩, (kept slot).trans (if_pos rfl), rfl⟩,
            fun other different => (kept other).trans (if_neg different)⟩
          rw [Session.Holds, Session.lookup?] at holds
          simp only [program, Program.run, holds]
          rfl

theorem gives_getState (holds : session.Holds slot held) :
    Gives slot session (getState.program slot) (getState.answer slot held) held := by
  refine ⟨session, ?_, holds, fun _ _ => rfl⟩
  have state : (session.registries slot.registry).state slot.type =
      if held.isSome then .ready else .unseen := by
    cases held with
    | none =>
        rw [Session.Holds, Session.lookup?] at holds
        simp only [Registry.state, holds]
        rfl
    | some content =>
        rcases holds with ⟨outcome, ready, _⟩
        rw [Session.lookup?] at ready
        simp only [Registry.state, ready]
        rfl
  rw [program, Program.run, state]
  rfl

/-- Every action runs to an end. Its answer hangs on what the slot holds alone, and it
leaves other slots alone. -/
theorem gives_answer (action : Action Payload) (holds : session.Holds slot held) :
    Gives slot session (action.program slot) (action.answer slot held)
      (held.or (action.kept? slot.registry.options)) := by
  cases action with
  | get describe =>
      cases describe with
      | error thrown => exact gives_request slot (.done rfl) .empty holds
      | ok descriptor =>
          exact gives_request slot (Program.comesTo_extraction _ descriptor) .empty holds
  | getOrCreate label build => exact gives_request slot build.comesTo label holds
  | register definition? => exact gives_register slot definition? holds
  | getState =>
      rw [kept?, Option.or_none]
      exact gives_getState slot holds

end

end Action

end CollectionSchema
