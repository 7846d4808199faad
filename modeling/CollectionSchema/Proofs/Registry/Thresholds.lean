import CollectionSchema.Proofs.Registry.Reports
import Mathlib.Data.List.Forall2

/-! # Thresholds and labels

No program reads the journal. So a run under a higher threshold differs from one under a
lower threshold in nothing but the records that it leaves out, and the label of a request
shows in nothing but the warning of a build that fails.
-/

namespace CollectionSchema

variable {Payload : Type}

/-! ## Records -/

/-- The records are one, or both are the warning of one failed build, with different
labels for its type. -/
inductive LogRecord.SameButLabel : LogRecord → LogRecord → Prop
  | same (record : LogRecord) : SameButLabel record record
  | failedBuild (type : TypeId) (label other : Text) (failure : Failure) :
      SameButLabel (Registry.failedRecord type label (.failed failure))
        (Registry.failedRecord type other (.failed failure))

theorem LogRecord.SameButLabel.level_eq {left right : LogRecord}
    (alike : left.SameButLabel right) : left.level = right.level := by
  cases alike <;> rfl

theorem Registry.sameButLabel_buildRecord (type : TypeId) (label other : Text)
    {outcome : Outcome Payload} (coherent : outcome.Coherent) :
    (buildRecord type label outcome).SameButLabel (buildRecord type other outcome) := by
  rcases outcome with ⟨_ | failure, _ | shared⟩
  · cases coherent.mp rfl
  · exact .same _
  · exact .failedBuild type label other failure
  · exact .same _

namespace Journal

theorem minimum_foldl_write (journal : Journal) (records : List LogRecord) :
    (records.foldl write journal).minimum = journal.minimum := by
  induction records generalizing journal with
  | nil => rfl
  | cons record rest induction => rw [List.foldl_cons, induction, minimum_write]

theorem foldl_write (journal : Journal) (records : List LogRecord) :
    records.foldl write journal =
      ⟨journal.minimum, journal.records ++ records.filter (admits journal.minimum)⟩ := by
  calc records.foldl write journal
      = ⟨(records.foldl write journal).minimum, (records.foldl write journal).records⟩ := rfl
    _ = _ := by rw [minimum_foldl_write, records_foldl_write]

/-- What a higher threshold admits, a lower one admits too. -/
theorem filter_admits_of_le {low high : Int} (ordered : low ≤ high)
    (records : List LogRecord) :
    (records.filter (admits low)).filter (admits high) = records.filter (admits high) := by
  rw [List.filter_filter]
  apply List.filter_congr
  intro record _
  simp only [admits, Bool.and_eq_left_iff_imp, decide_eq_true_eq]
  omega

theorem forall₂_filter_admits {left right : List LogRecord}
    (alike : List.Forall₂ LogRecord.SameButLabel left right) (minimum : Int) :
    List.Forall₂ LogRecord.SameButLabel (left.filter (admits minimum))
      (right.filter (admits minimum)) := by
  refine List.rel_filter ?_ alike
  intro record other alike
  simp only [admits, alike.level_eq]

end Journal

/-! ## Programs -/

namespace Program

/-- The programs differ in nothing but the labels of their requests. -/
inductive SameButLabels :
    {Value : Type} → Program Payload Value → Program Payload Value → Prop
  | done {Value : Type} (value : Value) : SameButLabels (.done value) (.done value)
  | emit {Value : Type} (record : LogRecord) {left right : Program Payload Value}
      (next : SameButLabels left right) :
      SameButLabels (.emit record left) (.emit record right)
  | share {Value : Type} (definition : CollectionDefinition Payload)
      {left right : Shared Payload → Program Payload Value}
      (next : ∀ shared, SameButLabels (left shared) (right shared)) :
      SameButLabels (.share definition left) (.share definition right)
  | request {Found Value : Type} (registry : RegistryId) (type : TypeId) (label other : Text)
      {leftBuild rightBuild : Program Payload (Attempt (Outcome Payload) × Found)}
      {left right : Outcome Payload × Option Found → Program Payload Value}
      (build : SameButLabels leftBuild rightBuild)
      (next : ∀ answer, SameButLabels (left answer) (right answer)) :
      SameButLabels (.request registry type label leftBuild left)
        (.request registry type other rightBuild right)
  | register {Value : Type} (registry : RegistryId) (type : TypeId)
      (definition? : Option (Shared Payload)) {left right : Status → Program Payload Value}
      (next : ∀ status, SameButLabels (left status) (right status)) :
      SameButLabels (.register registry type definition? left)
        (.register registry type definition? right)
  | inspect {Value : Type} (registry : RegistryId)
      {left right : Registry Payload → Program Payload Value}
      (next : ∀ contents, SameButLabels (left contents) (right contents)) :
      SameButLabels (.inspect registry left) (.inspect registry right)

theorem SameButLabels.refl {Value : Type} (program : Program Payload Value) :
    program.SameButLabels program := by
  induction program with
  | done value => exact .done value
  | emit record _ induction => exact .emit record induction
  | share definition _ induction => exact .share definition induction
  | request registry type label _ _ build induction =>
      exact .request registry type label label build induction
  | register registry type definition? _ induction =>
      exact .register registry type definition? induction
  | inspect registry _ induction => exact .inspect registry induction

/-! ## Runs -/

section

variable {Value : Type}

/-- The run ends with the value, and hands the records to whatever journal it starts
with. -/
def Hands (program : Program Payload Value) (session : Session Payload) (value : Value)
    (final : Session Payload) (records : List LogRecord) : Prop :=
  ∀ journal, program.run { session with journal } =
    some (value, { final with journal := records.foldl Journal.write journal })

/-- A build waits on itself, whatever journal the run starts with. -/
def Stuck (program : Program Payload Value) (session : Session Payload) : Prop :=
  ∀ journal, program.run { session with journal } = none

/-- The run hands over the records, and goes on as that of another program. -/
def Continues (program : Program Payload Value) (session : Session Payload)
    (records : List LogRecord) (rest : Program Payload Value) (next : Session Payload) : Prop :=
  ∀ journal, program.run { session with journal } =
    rest.run { next with journal := records.foldl Journal.write journal }

/-- Both programs are stuck, or they end alike and hand over records that are alike. -/
inductive Agree (left right : Program Payload Value) (session : Session Payload) : Prop
  | stuck (left : left.Stuck session) (right : right.Stuck session)
  | ended {value : Value} {final : Session Payload} {leftRecords rightRecords : List LogRecord}
      (alike : List.Forall₂ LogRecord.SameButLabel leftRecords rightRecords)
      (left : left.Hands session value final leftRecords)
      (right : right.Hands session value final rightRecords)

theorem Agree.of_continues {left right leftRest rightRest : Program Payload Value}
    {session next : Session Payload} {leftRecords rightRecords : List LogRecord}
    (agree : leftRest.Agree rightRest next)
    (alike : List.Forall₂ LogRecord.SameButLabel leftRecords rightRecords)
    (leftContinues : left.Continues session leftRecords leftRest next)
    (rightContinues : right.Continues session rightRecords rightRest next) :
    left.Agree right session := by
  cases agree with
  | stuck leftStuck rightStuck =>
      apply Agree.stuck
      · intro journal
        rw [leftContinues, leftStuck]
      · intro journal
        rw [rightContinues, rightStuck]
  | ended later leftHands rightHands =>
      apply Agree.ended (List.rel_append alike later)
      · intro journal
        rw [leftContinues, leftHands, List.foldl_append]
      · intro journal
        rw [rightContinues, rightHands, List.foldl_append]

end

/-! A request, and what its build comes to. -/

section Requests

variable {Found Value : Type} {id : RegistryId} {type : TypeId} {label : Text}
  {build : Program Payload (Attempt (Outcome Payload) × Found)}
  {next : Outcome Payload × Option Found → Program Payload Value} {session : Session Payload}

theorem continues_request_ready {outcome : Outcome Payload}
    (ready : (session.registries id).find? type = some (.ready outcome)) :
    (request id type label build next).Continues session [] (next (outcome, none)) session := by
  intro journal
  simp only [run, ready]
  rfl

theorem stuck_request_building
    (building : (session.registries id).find? type = some .building) :
    (request id type label build next).Stuck session := by
  intro journal
  simp only [run, building]

theorem stuck_request_of_stuck (absent : (session.registries id).find? type = none)
    (stuck : build.Stuck (session.setRegistry id ((session.registries id).begin type))) :
    (request id type label build next).Stuck session := by
  intro journal
  have ran := stuck journal
  simp only [run, absent]
  split
  · rfl
  · rename_i ended
    cases ran.symm.trans ended

theorem continues_request_of_hands (absent : (session.registries id).find? type = none)
    {attempt : Attempt (Outcome Payload)} {found : Found} {built : Session Payload}
    {records : List LogRecord}
    (hands : build.Hands (session.setRegistry id ((session.registries id).begin type))
      (attempt, found) built records) :
    (request id type label build next).Continues session
      (records ++ [Registry.buildRecord type label (.ofBuild attempt)])
      (next (.ofBuild attempt, some found))
      (built.setRegistry id ((built.registries id).commit type (.ofBuild attempt))) := by
  intro journal
  have ran := hands journal
  simp only [run, absent, List.foldl_append, List.foldl_cons, List.foldl_nil]
  split
  · rename_i stuck
    cases ran.symm.trans stuck
  · rename_i ended
    cases ran.symm.trans ended
    rfl

end Requests

/-! A registration. -/

section Registrations

variable {Value : Type} {id : RegistryId} {type : TypeId} {shared : Shared Payload}
  {next : Status → Program Payload Value} {session : Session Payload}

theorem continues_register_ready {outcome : Outcome Payload}
    (ready : (session.registries id).find? type = some (.ready outcome)) :
    (register id type (some shared) next).Continues session []
      (next (Registry.RegisterError.alreadyPresent type).status) session := by
  intro journal
  simp only [run, ready]
  rfl

theorem stuck_register_building
    (building : (session.registries id).find? type = some .building) :
    (register id type (some shared) next).Stuck session := by
  intro journal
  simp only [run, building]

theorem continues_register_absent (absent : (session.registries id).find? type = none) :
    (register id type (some shared) next).Continues session
      [Registry.registeredRecord shared.definition] (next .ok)
      (session.setRegistry id ((session.registries id).register type shared)) := by
  intro journal
  simp only [run, absent]
  rfl

end Registrations

/-! Every run. -/

theorem SameButLabels.agree {Value : Type} {left right : Program Payload Value}
    (same : left.SameButLabels right) (session : Session Payload) :
    left.Agree right session := by
  induction same generalizing session with
  | done value =>
      have hands : (Program.done value).Hands session value session [] :=
        fun _ => rfl
      exact .ended .nil hands hands
  | emit record _ induction =>
      exact (induction session).of_continues (.cons (.same record) .nil) (fun _ => rfl)
        (fun _ => rfl)
  | share definition _ induction =>
      exact (induction ⟨session.nextIdentity, definition⟩
        { session with nextIdentity := session.nextIdentity + 1 }).of_continues .nil
        (fun _ => rfl) (fun _ => rfl)
  | request id type label other _ _ buildInduction induction =>
      cases found : (session.registries id).find? type with
      | some entry =>
          cases entry with
          | building => exact .stuck (stuck_request_building found) (stuck_request_building found)
          | ready outcome =>
              exact (induction (outcome, none) session).of_continues .nil
                (continues_request_ready found) (continues_request_ready found)
      | none =>
          cases buildInduction (session.setRegistry id ((session.registries id).begin type)) with
          | stuck left right =>
              exact .stuck (stuck_request_of_stuck found left) (stuck_request_of_stuck found right)
          | @ended result built _ _ alike left right =>
              rcases result with ⟨attempt, value⟩
              have warned := Registry.sameButLabel_buildRecord type label other
                (Outcome.coherent_ofBuild attempt)
              exact (induction (.ofBuild attempt, some value) _).of_continues
                (List.rel_append alike (.cons warned .nil))
                (continues_request_of_hands found left) (continues_request_of_hands found right)
  | register id type definition? _ induction =>
      cases definition? with
      | none =>
          exact (induction Registry.RegisterError.noDefinition.status session).of_continues .nil
            (fun _ => rfl) (fun _ => rfl)
      | some shared =>
          cases found : (session.registries id).find? type with
          | some entry =>
              cases entry with
              | building =>
                  exact .stuck (stuck_register_building found) (stuck_register_building found)
              | ready outcome =>
                  exact (induction (Registry.RegisterError.alreadyPresent type).status
                    session).of_continues .nil (continues_register_ready found)
                    (continues_register_ready found)
          | none =>
              exact (induction .ok _).of_continues (.cons (.same _) .nil)
                (continues_register_absent found) (continues_register_absent found)
  | inspect id _ induction =>
      exact (induction (session.registries id) session).of_continues .nil (fun _ => rfl)
        (fun _ => rfl)

end Program

/-! ## Thresholds -/

/-- The session with another threshold. -/
def Session.under (session : Session Payload) (minimum : Int) : Session Payload :=
  { session with journal := { session.journal with minimum } }

namespace Program

/-- Whatever a program does with drafts, containers and registries, another threshold or
another label leaves its value and the registries as they are. The journal of a higher
threshold has the records of a lower one that reach it, and another label is seen in
warnings of failed builds only. -/
theorem threshold_only_filters {Value : Type} {program relabelled : Program Payload Value}
    (same : program.SameButLabels relabelled) {low high : Int} (ordered : low ≤ high)
    (session : Session Payload) :
    program.run (session.under low) = none ∧ program.run (session.under high) = none ∧
        relabelled.run (session.under low) = none ∨
      ∃ (value : Value) (final : Session Payload) (written rewritten : List LogRecord),
        program.run (session.under low) = some (value,
          { final with journal := ⟨low, session.journal.records ++ written⟩ }) ∧
        program.run (session.under high) = some (value,
          { final with
            journal := ⟨high,
              session.journal.records ++ written.filter (Journal.admits high)⟩ }) ∧
        relabelled.run (session.under low) = some (value,
          { final with journal := ⟨low, session.journal.records ++ rewritten⟩ }) ∧
        List.Forall₂ LogRecord.SameButLabel written rewritten := by
  cases same.agree session with
  | stuck stuck relabelledStuck => exact .inl ⟨stuck _, stuck _, relabelledStuck _⟩
  | @ended value final records relabelledRecords alike hands relabelledHands =>
      right
      refine ⟨value, final, records.filter (Journal.admits low),
        relabelledRecords.filter (Journal.admits low), ?_, ?_, ?_,
        Journal.forall₂_filter_admits alike low⟩
      · exact (hands _).trans (by rw [Journal.foldl_write])
      · rw [Journal.filter_admits_of_le ordered]
        exact (hands _).trans (by rw [Journal.foldl_write])
      · exact (relabelledHands _).trans (by rw [Journal.foldl_write])

/-! An audit asks for the definition of a draft that has no key, then empties a container
whose hook throws, and registers a definition. It writes at every level. -/

def unreliable : CollectionDefinition Empty where
  name := "notes"
  fields := [.key "id" .string]
  keyIndex := 0
  keyIndex_lt := Nat.zero_lt_one
  containerMode := true
  hooks? := some ⟨fun _ => .error .unknown, fun _ => .error .unknown⟩

def audit (label : Text) : Program Empty (Status × Except ContainerError (List Json) × Status) :=
  .request ⟨0, {}⟩ ⟨"Tag"⟩ label
    ((define (Draft.define { name := "tags" })).bind fun outcome => .done (.ok outcome, ()))
    fun answer =>
      (unpack unreliable .empty (-1)).bind fun rows =>
        .share unreliable fun shared =>
          .register ⟨0, {}⟩ ⟨"Note"⟩ (some shared) fun registered =>
            .done (answer.1.status, rows, registered)

theorem threshold_only_filters_audit : ∃ full quiet relabelled,
    (audit "tags").run (({} : Session Empty).under 0) = some full ∧
      (audit "tags").run (({} : Session Empty).under 2) = some quiet ∧
      (audit .empty).run (({} : Session Empty).under 0) = some relabelled ∧
      full.2.journal.records.map LogRecord.level = [.debug, .warning, .error, .info] ∧
      quiet.1 = full.1 ∧ quiet.2.registries = full.2.registries ∧
      quiet.2.journal.records = full.2.journal.records.filter (Journal.admits 2) ∧
      List.Forall₂ LogRecord.SameButLabel full.2.journal.records
        relabelled.2.journal.records := by
  have same : (audit "tags").SameButLabels (audit .empty) :=
    .request _ _ _ _ (.refl _) fun _ => .refl _
  have ordered : (0 : Int) ≤ 2 := by decide
  rcases threshold_only_filters same ordered {} with
    ⟨stuck, _⟩ | ⟨value, final, written, rewritten, full, quiet, relabelled, alike⟩
  · cases stuck
  · have levels : some [LogLevel.debug, .warning, .error, .info] =
        some (written.map LogRecord.level) :=
      congrArg (Option.map fun result : _ × Session Empty =>
        result.2.journal.records.map LogRecord.level) full
    exact ⟨_, _, _, full, quiet, relabelled, (Option.some.inj levels).symm, rfl, rfl, rfl, alike⟩

end Program

end CollectionSchema
