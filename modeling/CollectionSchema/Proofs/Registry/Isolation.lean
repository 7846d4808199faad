import CollectionSchema.Proofs.Registry.Operations
import Mathlib.Logic.Function.Basic

/-! # Entries on their own

What a sequence of operations is told of one entry is what it would be told if the
operations on other entries were left out. That answers are kept for later is not to be
seen either: they are those of the first operation that had something to keep.
-/

namespace CollectionSchema

variable {Payload : Type}

/-- An action and the entry that it is about. -/
structure Operation (Payload : Type) where
  slot : Slot
  action : Action Payload

namespace Operation

/-! ## Sequences -/

/-- The operations one after the other. Each answer comes with the entry that it is about. -/
def programAll : List (Operation Payload) → Program Payload (List (Slot × Answer Payload))
  | [] => .done []
  | operation :: rest =>
      (operation.action.program operation.slot).bind fun answer =>
        (programAll rest).bind fun answers => .done ((operation.slot, answer) :: answers)

/-- What an operation leaves in the entries. -/
def keep (operation : Operation Payload) (held : Slot → Option (Content Payload)) :
    Slot → Option (Content Payload) :=
  Function.update held operation.slot ((held operation.slot).or
    (operation.action.kept? operation.slot.registry.options))

/-- The answers, given what the entries hold at first. -/
def answersFrom (held : Slot → Option (Content Payload)) :
    List (Operation Payload) → List (Slot × Answer Payload)
  | [] => []
  | operation :: rest =>
      (operation.slot, operation.action.answer operation.slot (held operation.slot)) ::
        answersFrom (operation.keep held) rest

theorem run_programAll {operations : List (Operation Payload)} {session : Session Payload}
    (held : Slot → Option (Content Payload))
    (holds : ∀ operation ∈ operations, session.Holds operation.slot (held operation.slot)) :
    ∃ final, (programAll operations).run session = some (answersFrom held operations, final) := by
  induction operations generalizing session held with
  | nil => exact ⟨session, rfl⟩
  | cons operation rest induction =>
      rw [List.forall_mem_cons] at holds
      rcases operation.action.gives_answer operation.slot holds.1 with ⟨next, ran, kept, others⟩
      have holdsNext : ∀ later ∈ rest, next.Holds later.slot (operation.keep held later.slot) := by
        intro later listed
        by_cases same : later.slot = operation.slot
        · rw [same, keep, Function.update_self]
          exact kept
        · rw [keep, Function.update_of_ne same]
          exact (holds.2 later listed).of_lookup?_eq (others later.slot same)
      rcases induction (operation.keep held) holdsNext with ⟨final, later⟩
      refine ⟨final, ?_⟩
      rw [programAll, Program.run_bind, ran, Option.bind_some, Program.run_bind, later]
      rfl

/-! ## One entry -/

/-- The actions on an entry. -/
def actionsAt (slot : Slot) (operations : List (Operation Payload)) : List (Action Payload) :=
  (operations.filter (·.slot = slot)).map action

theorem actionsAt_cons (slot : Slot) (operation : Operation Payload)
    (rest : List (Operation Payload)) :
    actionsAt slot (operation :: rest) =
      if operation.slot = slot then operation.action :: actionsAt slot rest
      else actionsAt slot rest := by
  by_cases same : operation.slot = slot <;> simp [actionsAt, same]

end Operation

/-- The answers about an entry. -/
def Answer.about (slot : Slot) (answers : List (Slot × Answer Payload)) : List (Answer Payload) :=
  (answers.filter (·.1 = slot)).map Prod.snd

theorem Answer.about_cons (slot other : Slot) (answer : Answer Payload)
    (rest : List (Slot × Answer Payload)) :
    about slot ((other, answer) :: rest) =
      if other = slot then answer :: about slot rest else about slot rest := by
  by_cases same : other = slot <;> simp [about, same]

namespace Action

/-- The answers to actions on one entry, given what it holds at first. -/
def answersFrom (slot : Slot) (held : Option (Content Payload)) :
    List (Action Payload) → List (Answer Payload)
  | [] => []
  | action :: rest =>
      action.answer slot held ::
        answersFrom slot (held.or (action.kept? slot.registry.options)) rest

/-- An entry of another registry with the same options answers alike. -/
theorem answersFrom_congr {slot : Slot} {id : RegistryId}
    (options : id.options = slot.registry.options) (actions : List (Action Payload))
    (held : Option (Content Payload)) :
    answersFrom ⟨id, slot.type⟩ held actions = answersFrom slot held actions := by
  induction actions generalizing held with
  | nil => rfl
  | cons action rest induction =>
      have same : action.answer ⟨id, slot.type⟩ held = action.answer slot held := by
        cases action with
        | get describe => simp only [answer, options]
        | register definition? => cases definition? <;> rfl
        | _ => rfl
      rw [answersFrom, answersFrom, same, options, induction]

end Action

namespace Operation

/-- Operations on other entries leave no trace in the answers about an entry. -/
theorem about_answersFrom (slot : Slot) (operations : List (Operation Payload))
    (held : Slot → Option (Content Payload)) :
    Answer.about slot (answersFrom held operations) =
      Action.answersFrom slot (held slot) (actionsAt slot operations) := by
  induction operations generalizing held with
  | nil => rfl
  | cons operation rest induction =>
      rw [answersFrom, Answer.about_cons, actionsAt_cons, induction, keep]
      by_cases same : operation.slot = slot
      · subst same
        rw [if_pos rfl, if_pos rfl, Function.update_self, Action.answersFrom]
      · rw [if_neg same, if_neg same, Function.update_of_ne (Ne.symm same)]

theorem map_snd_answersFrom (slot : Slot) (actions : List (Action Payload))
    (held : Slot → Option (Content Payload)) :
    (answersFrom held (actions.map (mk slot))).map Prod.snd =
      Action.answersFrom slot (held slot) actions := by
  induction actions generalizing held with
  | nil => rfl
  | cons action rest induction =>
      rw [List.map_cons, answersFrom, List.map_cons, induction, keep, Function.update_self,
        Action.answersFrom]

/-! ## First answers -/

/-- The operation has something to keep in the entry. -/
def commits (slot : Slot) (operation : Operation Payload) : Bool :=
  operation.slot = slot ∧ (operation.action.kept? slot.registry.options).isSome

/-- What the first operation with something to keep leaves in an entry. -/
def firstKept? (slot : Slot) (operations : List (Operation Payload)) : Option (Content Payload) :=
  (operations.find? (commits slot)).bind (·.action.kept? slot.registry.options)

theorem firstKept?_cons (slot : Slot) (operation : Operation Payload)
    (rest : List (Operation Payload)) :
    firstKept? slot (operation :: rest) =
      if operation.slot = slot then
        (operation.action.kept? slot.registry.options).or (firstKept? slot rest)
      else firstKept? slot rest := by
  rw [firstKept?, List.find?_cons, commits]
  by_cases same : operation.slot = slot
  · cases kept : operation.action.kept? slot.registry.options <;> simp [same, kept, firstKept?]
  · simp [same, firstKept?]

theorem getElem?_answersFrom (operation : Operation Payload)
    (before after : List (Operation Payload)) (held : Slot → Option (Content Payload)) :
    (answersFrom held (before ++ operation :: after))[before.length]? =
      some (operation.slot, operation.action.answer operation.slot
        ((held operation.slot).or (firstKept? operation.slot before))) := by
  induction before generalizing held with
  | nil => simp [answersFrom, firstKept?]
  | cons first rest induction =>
      rw [List.cons_append, answersFrom, List.length_cons, List.getElem?_cons_succ, induction,
        keep, firstKept?_cons]
      by_cases same : first.slot = operation.slot
      · rw [if_pos same, same, Function.update_self, Option.or_assoc]
      · rw [if_neg same, Function.update_of_ne (Ne.symm same)]

/-! ## Isolation -/

/-- Operations on any number of registries run to an end. The answers about an entry are
those that its own operations get when they run alone, in the same order, on an entry
that is absent from a registry with the same options. An extraction, if it is the first
to keep something, is answered as it comes out under the options of its registry. -/
theorem answers_isolated (operations : List (Operation Payload)) {session : Session Payload}
    (fresh : ∀ operation ∈ operations, session.lookup? operation.slot = none) :
    ∃ answers final, (programAll operations).run session = some (answers, final) ∧
      (∀ (slot : Slot) (id : RegistryId) (other : Session Payload),
        id.options = slot.registry.options → other.lookup? ⟨id, slot.type⟩ = none →
        ∃ alone last,
          (programAll ((actionsAt slot operations).map (mk ⟨id, slot.type⟩))).run other =
            some (alone, last) ∧
          alone.map Prod.snd = Answer.about slot answers) ∧
      ∀ (before after : List (Operation Payload)) (slot : Slot) (recordType : RecordType)
          (describe : Attempt (RecordDescriptor recordType)),
        operations = before ++ mk slot (.get describe) :: after →
        (before ++ [mk slot (.get describe)]).find? (commits slot) =
          some (mk slot (.get describe)) →
        answers[before.length]? =
          some (slot, .content (.ofExtraction slot.registry.options describe)) := by
  rcases run_programAll (fun _ => none) fresh with ⟨final, ran⟩
  refine ⟨_, final, ran, ?_, ?_⟩
  · intro slot id other options absent
    have fresh : ∀ operation ∈ (actionsAt slot operations).map (mk ⟨id, slot.type⟩),
        other.Holds operation.slot none := by
      intro operation listed
      rcases List.mem_map.mp listed with ⟨action, _, rfl⟩
      exact absent
    rcases run_programAll (fun _ => none) fresh with ⟨last, alone⟩
    refine ⟨_, last, alone, ?_⟩
    rw [map_snd_answersFrom, about_answersFrom, Action.answersFrom_congr options]
  · rintro before after slot recordType describe rfl first
    rw [getElem?_answersFrom, Option.none_or, firstKept?]
    rw [List.find?_append] at first
    cases found : before.find? (commits slot) with
    | none => rfl
    | some earlier =>
        rw [found, Option.some_or] at first
        cases first
        rfl

/-! Two registries keep tags. In the strict one a build throws, and a definition that comes
later is refused. The lenient one extracts a definition and builds no other one, and is
handed the definition of labels. -/

def tag : RecordType where
  Member := Unit
  decidableEq := inferInstance
  type _ := .string
  initial _ := .empty

def tagDescriptor : RecordDescriptor tag where
  typeName := "Tag"
  declarations := [.marked "id" () ⟨"key", .empty⟩ none]

def labels : CollectionDefinition Empty where
  name := "labels"
  fields := [.key "id" .string]
  keyIndex := 0
  keyIndex_lt := Nat.zero_lt_one
  containerMode := false
  hooks? := none

def strictSlot : Slot := ⟨⟨0, {}⟩, ⟨"Tag"⟩⟩

def lenientSlot : Slot := ⟨⟨1, { requireVector := false }⟩, ⟨"Tag"⟩⟩

def labelSlot : Slot := ⟨lenientSlot.registry, ⟨"Label"⟩⟩

/-- What is asked of the strict registry. -/
def strictActions : List (Action Empty) :=
  [.getOrCreate "tags" (.throwing .unknown), .register (some ⟨0, labels⟩),
    .get (.ok tagDescriptor)]

def tagOperations : List (Operation Empty) :=
  [⟨strictSlot, .getOrCreate "tags" (.throwing .unknown)⟩, ⟨lenientSlot, .getState⟩,
    ⟨lenientSlot, .get (.ok tagDescriptor)⟩, ⟨labelSlot, .register (some ⟨0, labels⟩)⟩,
    ⟨strictSlot, .register (some ⟨0, labels⟩)⟩,
    ⟨lenientSlot, .getOrCreate .empty (.sharing labels)⟩,
    ⟨strictSlot, .get (.ok tagDescriptor)⟩, ⟨labelSlot, .getState⟩]

theorem tag_answers_isolated : ∃ answers final,
    (programAll tagOperations).run {} = some (answers, final) ∧
      answers[2]? = some (lenientSlot,
        .content (.ofExtraction { requireVector := false } (.ok tagDescriptor))) ∧
      (∃ alone last,
        (programAll (strictActions.map (mk ⟨⟨7, {}⟩, ⟨"Tag"⟩⟩))).run {} = some (alone, last) ∧
        alone.map Prod.snd = Answer.about strictSlot answers) ∧
      let failure : Content Empty := (Outcome.ofBuild (.error .unknown)).content
      Answer.about strictSlot answers =
        [.content failure, .status (Registry.RegisterError.alreadyPresent ⟨"Tag"⟩).status,
          .content failure] := by
  have fresh : ∀ operation ∈ tagOperations,
      ({} : Session Empty).lookup? operation.slot = none := fun _ _ => rfl
  rcases answers_isolated tagOperations fresh with ⟨answers, final, ran, isolated, extracted⟩
  have alike := isolated strictSlot ⟨7, {}⟩ {} rfl rfl
  refine ⟨answers, final, ran, ?_, alike, ?_⟩
  · exact extracted (tagOperations.take 2) (tagOperations.drop 3) lenientSlot tag
      (.ok tagDescriptor) rfl rfl
  · rcases alike with ⟨alone, last, ranAlone, told⟩
    rw [← told]
    cases ranAlone
    rfl

end Operation

end CollectionSchema
