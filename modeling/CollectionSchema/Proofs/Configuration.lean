import CollectionSchema.Config
import Mathlib.Data.List.Basic

/-! # Updates of the configuration

The settings that a document gives are read and stored one after the other. If all of
them read, they are what changes. Otherwise the update ends at the first one that does not
read, and those before it stay stored.
-/

namespace CollectionSchema

/-! ## Names of levels -/

def LogLevel.names : LogLevel → List Text
  | debug => ["debug"]
  | info => ["info"]
  | warning => ["warning", "warn"]
  | error => ["error"]

theorem LogLevel.parse?_eq_some_iff {name : Text} {level : LogLevel} :
    parse? name = some level ↔ name.lower ∈ level.names := by
  constructor
  · intro parsed
    simp only [parse?] at parsed
    split_ifs at parsed with debug info warning error
    · cases parsed
      exact List.mem_singleton.mpr debug
    · cases parsed
      exact List.mem_singleton.mpr info
    · cases parsed
      exact List.mem_pair.mpr warning
    · cases parsed
      exact List.mem_singleton.mpr error
  · intro listed
    cases level with
    | warning =>
        rcases List.mem_pair.mp listed with long | short
        · rw [parse?, long]
          decide
        · rw [parse?, short]
          decide
    | debug | info | error =>
        rw [parse?, List.mem_singleton.mp listed]
        decide

namespace Config

/-! ## Settings -/

inductive Setting
  | requireVector
  | strictNames
  | logLevel
deriving DecidableEq

namespace Setting

/-- In the order in which they are updated. -/
def all : List Setting := [requireVector, strictNames, logLevel]

/-- The settings that are updated before this one. -/
def before : Setting → List Setting
  | requireVector => []
  | strictNames => [requireVector]
  | logLevel => [requireVector, strictNames]

def name : Setting → Text
  | requireVector => "RequireVectorField"
  | strictNames => "StrictStorageNames"
  | logLevel => "LogLevel"

abbrev Value : Setting → Type
  | requireVector => Bool
  | strictNames => Bool
  | logLevel => LogLevel

def update : Setting → Json → Config → Except UpdateError Config
  | requireVector => updateRequireVector
  | strictNames => updateStrictNames
  | logLevel => updateLogLevel

/-- The error of a setting that does not read. -/
def error : Setting → UpdateError
  | requireVector => .notBoolean requireVector.name
  | strictNames => .notBoolean strictNames.name
  | logLevel => .logLevel

theorem mem_all (setting : Setting) : setting ∈ all := by
  cases setting <;> decide

theorem all_nodup : all.Nodup := by decide

theorem all_eq (setting : Setting) : ∃ after, all = setting.before ++ setting :: after := by
  cases setting <;> exact ⟨_, rfl⟩

theorem before_nodup (setting : Setting) : setting.before.Nodup := by
  cases setting <;> decide

theorem before_trans {first second third : Setting} (left : first ∈ second.before)
    (right : second ∈ third.before) : first ∈ third.before := by
  cases first <;> cases second <;> cases third <;> revert left right <;> decide

theorem before_total (left right : Setting) :
    left ∈ right.before ∨ left = right ∨ right ∈ left.before := by
  cases left <;> cases right <;> decide

/-! ## What a document gives -/

/-- The way a value of a setting is written. -/
inductive Writes : (setting : Setting) → Json → setting.Value → Prop
  | requireVector (flag : Bool) : Writes .requireVector (.bool flag) flag
  | strictNames (flag : Bool) : Writes .strictNames (.bool flag) flag
  | logLevel {name : Text} {level : LogLevel} (listed : name.lower ∈ level.names) :
      Writes .logLevel (.string name) level

section

variable {setting : Setting} {json : Json} {value : setting.Value}

def Gives (setting : Setting) (json : Json) (value : setting.Value) : Prop :=
  ∃ held, json.member? setting.name = some held ∧ setting.Writes held value

theorem Writes.unique {other : setting.Value} (writes : setting.Writes json value)
    (alsoWrites : setting.Writes json other) : value = other := by
  cases writes with
  | requireVector =>
      cases alsoWrites
      rfl
  | strictNames =>
      cases alsoWrites
      rfl
  | logLevel listed =>
      rcases alsoWrites with _ | _ | alsoListed
      have parsed := LogLevel.parse?_eq_some_iff.mpr listed
      rw [LogLevel.parse?_eq_some_iff.mpr alsoListed] at parsed
      exact (Option.some.inj parsed).symm

theorem Gives.unique {other : setting.Value} (gives : setting.Gives json value)
    (alsoGives : setting.Gives json other) : value = other := by
  rcases gives with ⟨held, mentioned, writes⟩
  rcases alsoGives with ⟨_, same, alsoWrites⟩
  cases mentioned.symm.trans same
  exact writes.unique alsoWrites

theorem Gives.ne_none (gives : setting.Gives json value) :
    json.member? setting.name ≠ none := by
  rcases gives with ⟨held, mentioned, _⟩
  rw [mentioned]
  exact Option.some_ne_none held

/-- The setting is absent, or the document gives a value for it. -/
def Readable (setting : Setting) (json : Json) : Prop :=
  json.member? setting.name = none ∨ ∃ value, setting.Gives json value

def Malformed (setting : Setting) (json : Json) : Prop :=
  ∃ held, json.member? setting.name = some held ∧ ∀ value, ¬ setting.Writes held value

theorem not_readable_iff : ¬ setting.Readable json ↔ setting.Malformed json := by
  cases mentioned : json.member? setting.name with
  | none => simp [Readable, Malformed, mentioned]
  | some held => simp [Readable, Malformed, Gives, mentioned]

theorem Gives.readable (gives : setting.Gives json value) : setting.Readable json :=
  .inr ⟨value, gives⟩

/-- No setting that is updated before this one ends the update. -/
def Reached (setting : Setting) (json : Json) : Prop :=
  ∀ earlier ∈ setting.before, earlier.Readable json

/-- An update with the document stores the value, however it ends. -/
structure Takes (setting : Setting) (json : Json) (value : setting.Value) : Prop where
  gives : setting.Gives json value
  reached : setting.Reached json

/-- An update with the document ends at the setting. -/
structure FirstMalformed (setting : Setting) (json : Json) : Prop where
  malformed : setting.Malformed json
  reached : setting.Reached json

end

end Setting

/-- Every setting is absent or given a value. -/
def Accepts (json : Json) : Prop := ∀ setting : Setting, setting.Readable json

theorem exists_firstMalformed {json : Json} (rejected : ¬ Accepts json) :
    ∃ setting : Setting, setting.FirstMalformed json := by
  by_cases requireVector : Setting.requireVector.Readable json
  · by_cases strictNames : Setting.strictNames.Readable json
    · have reached : Setting.logLevel.Reached json :=
        List.forall_mem_cons.mpr ⟨requireVector, List.forall_mem_singleton.mpr strictNames⟩
      refine ⟨.logLevel, Setting.not_readable_iff.mp ?_, reached⟩
      intro logLevel
      apply rejected
      intro setting
      cases setting with
      | requireVector => exact requireVector
      | strictNames => exact strictNames
      | logLevel => exact logLevel
    · exact ⟨.strictNames, Setting.not_readable_iff.mp strictNames,
        List.forall_mem_singleton.mpr requireVector⟩
  · exact ⟨.requireVector, Setting.not_readable_iff.mp requireVector, List.forall_mem_nil _⟩

/-! ## Values -/

def value (config : Config) : (setting : Setting) → setting.Value
  | .requireVector => config.requireVector
  | .strictNames => config.strictNames
  | .logLevel => config.logLevel

def put (config : Config) : (setting : Setting) → setting.Value → Config
  | .requireVector, flag => { config with requireVector := flag }
  | .strictNames, flag => { config with strictNames := flag }
  | .logLevel, level => { config with logLevel := level }

@[simp] theorem value_put_self (config : Config) (setting : Setting) (value : setting.Value) :
    (config.put setting value).value setting = value := by
  cases setting <;> rfl

theorem value_put_of_ne {setting other : Setting} (different : other ≠ setting)
    (config : Config) (value : setting.Value) :
    (config.put setting value).value other = config.value other := by
  cases setting <;> cases other <;> first | rfl | exact absurd rfl different

theorem eq_of_value_eq {left right : Config}
    (same : ∀ setting, left.value setting = right.value setting) : left = right := by
  rcases left with ⟨_, _, _⟩
  rcases right with ⟨_, _, _⟩
  cases same .requireVector
  cases same .strictNames
  cases same .logLevel
  rfl

/-! ## One setting -/

section

variable {setting : Setting} {json : Json} {config : Config}

theorem update_of_absent (absent : json.member? setting.name = none) :
    setting.update json config = .ok config := by
  cases setting with
  | requireVector =>
      rw [Setting.update, updateRequireVector, flagSetting, ← Setting.name, absent]
      rfl
  | strictNames =>
      rw [Setting.update, updateStrictNames, flagSetting, ← Setting.name, absent]
      rfl
  | logLevel =>
      rw [Setting.update, updateLogLevel, levelSetting, ← Setting.name, absent]
      rfl

theorem update_of_gives {value : setting.Value} (gives : setting.Gives json value) :
    setting.update json config = .ok (config.put setting value) := by
  rcases gives with ⟨held, mentioned, writes⟩
  cases writes with
  | requireVector flag =>
      rw [Setting.update, updateRequireVector, flagSetting, ← Setting.name, mentioned]
      rfl
  | strictNames flag =>
      rw [Setting.update, updateStrictNames, flagSetting, ← Setting.name, mentioned]
      rfl
  | logLevel listed =>
      rw [Setting.update, updateLogLevel, levelSetting, ← Setting.name, mentioned]
      change config.setLogLevel _ = _
      rw [setLogLevel, LogLevel.parse?_eq_some_iff.mpr listed]
      rfl

theorem update_of_malformed (malformed : setting.Malformed json) :
    setting.update json config = .error setting.error := by
  rcases malformed with ⟨held, mentioned, unwritten⟩
  cases setting with
  | requireVector =>
      rw [Setting.update, updateRequireVector, flagSetting, ← Setting.name, mentioned]
      cases held with
      | bool flag => exact absurd (.requireVector flag) (unwritten flag)
      | _ => rfl
  | strictNames =>
      rw [Setting.update, updateStrictNames, flagSetting, ← Setting.name, mentioned]
      cases held with
      | bool flag => exact absurd (.strictNames flag) (unwritten flag)
      | _ => rfl
  | logLevel =>
      rw [Setting.update, updateLogLevel, levelSetting, ← Setting.name, mentioned]
      cases held with
      | string name =>
          change config.setLogLevel name = _
          cases parsed : LogLevel.parse? name with
          | none =>
              rw [setLogLevel, parsed]
              rfl
          | some level =>
              have listed := LogLevel.parse?_eq_some_iff.mp parsed
              exact absurd (.logLevel listed) (unwritten level)
      | _ => rfl

/-! ## Settings in order -/

/-- The updated configuration has what the document gives for the settings, and is the
same in any other. -/
structure Stored (settings : List Setting) (json : Json) (config updated : Config) :
    Prop where
  given : ∀ setting ∈ settings, ∀ value, setting.Gives json value →
    updated.value setting = value
  kept : ∀ setting, (setting ∈ settings → json.member? setting.name = none) →
    updated.value setting = config.value setting

theorem stored_nil : Stored [] json config config where
  given _ listed := absurd listed List.not_mem_nil
  kept _ _ := rfl

variable {settings : List Setting} {updated : Config}

theorem Stored.cons_absent (stored : Stored settings json config updated)
    (absent : json.member? setting.name = none) :
    Stored (setting :: settings) json config updated where
  given := by
    intro other listed value gives
    rcases List.mem_cons.mp listed with rfl | listed
    · exact absurd absent gives.ne_none
    · exact stored.given other listed value gives
  kept other untold := stored.kept other fun listed => untold (List.mem_cons_of_mem _ listed)

theorem Stored.cons_given {value : setting.Value}
    (stored : Stored settings json (config.put setting value) updated)
    (fresh : setting ∉ settings) (gives : setting.Gives json value) :
    Stored (setting :: settings) json config updated where
  given := by
    intro other listed told given
    rcases List.mem_cons.mp listed with rfl | listed
    · have same := gives.unique given
      rw [stored.kept other fun listed => absurd listed fresh, value_put_self, same]
    · exact stored.given other listed told given
  kept := by
    intro other untold
    have different : other ≠ setting := by
      intro same
      subst same
      exact gives.ne_none (untold List.mem_cons_self)
    rw [stored.kept other fun listed => untold (List.mem_cons_of_mem _ listed),
      value_put_of_ne different]

/-- Settings that read are stored before the rest of an update runs. -/
theorem updateInOrder_of_readable (distinct : settings.Nodup)
    (readable : ∀ setting ∈ settings, setting.Readable json)
    (rest : List (Config → Except UpdateError Config)) (config : Config) :
    ∃ updated, config.updateInOrder (settings.map (·.update json) ++ rest) =
        updated.updateInOrder rest ∧ Stored settings json config updated := by
  induction settings generalizing config with
  | nil => exact ⟨config, rfl, stored_nil⟩
  | cons setting others induction =>
      rcases List.nodup_cons.mp distinct with ⟨fresh, distinct⟩
      rcases List.forall_mem_cons.mp readable with ⟨first, later⟩
      rw [List.map_cons, List.cons_append, updateInOrder]
      rcases first with absent | ⟨value, gives⟩
      · rw [update_of_absent absent]
        rcases induction distinct later config with ⟨updated, runs, stored⟩
        exact ⟨updated, runs, stored.cons_absent absent⟩
      · rw [update_of_gives gives]
        rcases induction distinct later (config.put setting value) with ⟨updated, runs, stored⟩
        exact ⟨updated, runs, stored.cons_given fresh gives⟩

/-! ## One update -/

theorem update_of_accepts (accepts : Accepts json) (config : Config) :
    ∃ updated, config.update json = (updated, none) ∧
      Stored Setting.all json config updated := by
  rcases updateInOrder_of_readable Setting.all_nodup (fun setting _ => accepts setting) [] config
    with ⟨updated, runs, stored⟩
  exact ⟨updated, runs, stored⟩

theorem update_of_firstMalformed (first : setting.FirstMalformed json) (config : Config) :
    ∃ updated, config.update json = (updated, some setting.error) ∧
      Stored setting.before json config updated := by
  rcases setting.all_eq with ⟨after, split⟩
  rcases updateInOrder_of_readable setting.before_nodup first.reached
    ((setting :: after).map (·.update json)) config with ⟨updated, runs, stored⟩
  refine ⟨updated, ?_, stored⟩
  calc config.update json
      = config.updateInOrder (Setting.all.map (·.update json)) := rfl
    _ = updated.updateInOrder ((setting :: after).map (·.update json)) := by
        rw [split, List.map_append, runs]
    _ = (updated, some setting.error) := by
        rw [List.map_cons, updateInOrder, update_of_malformed first.malformed]

theorem update_error_eq_none_iff : (config.update json).2 = none ↔ Accepts json := by
  constructor
  · intro ended
    by_contra rejected
    rcases exists_firstMalformed rejected with ⟨setting, first⟩
    rcases update_of_firstMalformed first config with ⟨updated, ends, _⟩
    rw [ends] at ended
    cases ended
  · intro accepts
    rcases update_of_accepts accepts config with ⟨updated, ends, _⟩
    rw [ends]

/-- What is stored are the settings that the update passes. -/
theorem exists_stored (config : Config) (json : Json) :
    ∃ settings, Stored settings json config (config.update json).1 ∧
      ∀ setting : Setting, setting ∈ settings ↔ setting.Reached json ∧ setting.Readable json := by
  by_cases accepts : Accepts json
  · rcases update_of_accepts accepts config with ⟨updated, ends, stored⟩
    refine ⟨Setting.all, by rw [ends]; exact stored, ?_⟩
    intro setting
    exact iff_of_true setting.mem_all ⟨fun earlier _ => accepts earlier, accepts setting⟩
  · rcases exists_firstMalformed accepts with ⟨bad, first⟩
    rcases update_of_firstMalformed first config with ⟨updated, ends, stored⟩
    refine ⟨bad.before, by rw [ends]; exact stored, ?_⟩
    intro setting
    constructor
    · intro listed
      exact ⟨fun earlier before => first.reached earlier (Setting.before_trans before listed),
        first.reached setting listed⟩
    · intro passed
      have unread := Setting.not_readable_iff.mpr first.malformed
      rcases Setting.before_total setting bad with listed | same | listed
      · exact listed
      · exact absurd (same ▸ passed.2) unread
      · exact absurd (passed.1 bad listed) unread

theorem value_update_of_takes {value : setting.Value} (takes : setting.Takes json value) :
    (config.update json).1.value setting = value := by
  rcases exists_stored config json with ⟨settings, stored, passed⟩
  exact stored.given setting ((passed setting).mpr ⟨takes.reached, takes.gives.readable⟩) value
    takes.gives

theorem value_update_of_untaken (untaken : ∀ value, ¬ setting.Takes json value) :
    (config.update json).1.value setting = config.value setting := by
  rcases exists_stored config json with ⟨settings, stored, passed⟩
  apply stored.kept
  intro listed
  rcases (passed setting).mp listed with ⟨reached, absent | ⟨value, gives⟩⟩
  · exact absent
  · exact absurd ⟨gives, reached⟩ (untaken value)

/-- A rejected document leaves what already had the values that it stores. -/
theorem update_eq_self_iff : (config.update json).1 = config ↔
    ∀ setting value, setting.Takes json value → config.value setting = value := by
  constructor
  · intro same setting value takes
    rw [← same]
    exact value_update_of_takes takes
  · intro already
    apply eq_of_value_eq
    intro setting
    by_cases taken : ∃ value, setting.Takes json value
    · rcases taken with ⟨value, takes⟩
      rw [value_update_of_takes takes, already setting value takes]
    · exact value_update_of_untaken fun value takes => taken ⟨value, takes⟩

end

/-! ## Sequences of updates -/

def updateAll (config : Config) (documents : List Json) : Config :=
  documents.foldl (fun held json => (held.update json).1) config

/-- The final value is the one that is given last, or else the initial one. -/
structure LastGiven {Value : Type} (gives : Json → Value → Prop) (documents : List Json)
    (initial final : Value) : Prop where
  given : ∀ front last back value, documents = front ++ last :: back → gives last value →
    (∀ later ∈ back, ∀ other, ¬ gives later other) → final = value
  kept : (∀ json ∈ documents, ∀ value, ¬ gives json value) → final = initial

theorem LastGiven.congr {Value : Type} {gives tells : Json → Value → Prop}
    {documents : List Json} {initial final : Value}
    (last : LastGiven gives documents initial final)
    (same : ∀ json ∈ documents, ∀ value, gives json value ↔ tells json value) :
    LastGiven tells documents initial final where
  given := by
    intro front json back value split told untold
    subst split
    rcases List.forall_mem_append.mp same with ⟨_, same⟩
    rcases List.forall_mem_cons.mp same with ⟨sameLast, sameBack⟩
    apply last.given front json back value rfl ((sameLast value).mpr told)
    intro later listed other given
    exact untold later listed other ((sameBack later listed other).mp given)
  kept untold := last.kept fun json listed value given =>
    untold json listed value ((same json listed value).mp given)

theorem lastGiven_takes (setting : Setting) (config : Config) (documents : List Json) :
    LastGiven setting.Takes documents (config.value setting)
      ((config.updateAll documents).value setting) := by
  induction documents generalizing config with
  | nil =>
      constructor
      · intro front last back value split
        cases front <;> cases split
      · intro _
        rfl
  | cons json rest induction =>
      have later := induction (config.update json).1
      constructor
      · intro front last back value split takes untaken
        cases front with
        | nil =>
            cases split
            exact (later.kept untaken).trans (value_update_of_takes takes)
        | cons head front =>
            cases split
            exact later.given front last back value rfl takes untaken
      · intro untaken
        rcases List.forall_mem_cons.mp untaken with ⟨first, others⟩
        exact (later.kept others).trans (value_update_of_untaken first)

/-- An update with the document stores all of its settings or none of them. -/
def AllOrNothing (json : Json) : Prop :=
  Accepts json ∨ ∀ setting value, ¬ Setting.Takes setting json value

theorem AllOrNothing.takes_iff {json : Json} (whole : AllOrNothing json) (setting : Setting)
    (value : setting.Value) :
    setting.Takes json value ↔ Accepts json ∧ setting.Gives json value := by
  constructor
  · intro takes
    rcases whole with accepts | nothing
    · exact ⟨accepts, takes.gives⟩
    · exact absurd takes (nothing setting value)
  · intro accepted
    exact ⟨accepted.2, fun earlier _ => accepted.1 earlier⟩

/-- An update ends well exactly if every setting of the document reads, and changes those
that are given then. Otherwise it ends with the error of the first one that does not read,
and the configuration stays the same exactly if it had the values before that already. In
a sequence of updates a setting has the value that was stored last. If no document gives a
setting before one that does not read, that is the value which the last accepted document
with the setting gives. -/
theorem update_by_settings (config : Config) (json : Json) (documents : List Json) :
    ((config.update json).2 = none ↔ Accepts json) ∧
    (Accepts json → ∀ setting : Setting,
      (∀ value, setting.Gives json value → (config.update json).1.value setting = value) ∧
      (json.member? setting.name = none →
        (config.update json).1.value setting = config.value setting)) ∧
    (¬ Accepts json → ∃ setting : Setting, setting.FirstMalformed json ∧
      (config.update json).2 = some setting.error) ∧
    ((config.update json).1 = config ↔
      ∀ setting value, setting.Takes json value → config.value setting = value) ∧
    (∀ setting : Setting, LastGiven setting.Takes documents (config.value setting)
      ((config.updateAll documents).value setting)) ∧
    ((∀ document ∈ documents, AllOrNothing document) → ∀ setting : Setting,
      LastGiven (fun document value => Accepts document ∧ setting.Gives document value)
        documents (config.value setting) ((config.updateAll documents).value setting)) := by
  refine ⟨update_error_eq_none_iff, ?_, ?_, update_eq_self_iff, ?_, ?_⟩
  · intro accepts setting
    rcases update_of_accepts accepts config with ⟨updated, ends, stored⟩
    rw [ends]
    exact ⟨stored.given setting setting.mem_all, fun absent => stored.kept setting fun _ => absent⟩
  · intro rejected
    rcases exists_firstMalformed rejected with ⟨setting, first⟩
    rcases update_of_firstMalformed first config with ⟨updated, ends, _⟩
    exact ⟨setting, first, by rw [ends]⟩
  · intro setting
    exact lastGiven_takes setting config documents
  · intro whole setting
    exact (lastGiven_takes setting config documents).congr fun document listed value =>
      (whole document listed).takes_iff setting value

/-! A document that is rejected may change what it mentions before. -/

def warnings : Json := .object [("LogLevel", .string "WARN")]

def numbered : Json := .object [("LogLevel", .int 2)]

def flagsFirst : Json :=
  .object [("LogLevel", .string "bad"), ("StrictStorageNames", .bool true),
    ("RequireVectorField", .bool false)]

theorem update_by_settings_warnings :
    (updateAll {} [warnings, numbered]).value .logLevel = .warning ∧
      (update {} numbered).2 = some .logLevel := by
  have first := update_by_settings {} warnings [warnings, numbered]
  have accepts : Accepts warnings := first.1.mp (by decide)
  have gives : Setting.logLevel.Gives warnings .warning := ⟨_, rfl, .logLevel (by decide)⟩
  have rejects : ¬ Accepts numbered := by
    intro accepts
    exact absurd ((update_by_settings {} numbered []).1.mpr accepts) (by decide)
  have nothing : AllOrNothing numbered := by
    right
    intro setting value takes
    rcases takes.gives with ⟨held, mentioned, writes⟩
    cases writes with
    | requireVector | strictNames => cases mentioned
    | logLevel => cases mentioned
  have whole : ∀ document ∈ [warnings, numbered], AllOrNothing document :=
    List.forall_mem_cons.mpr ⟨.inl accepts, List.forall_mem_singleton.mpr nothing⟩
  have last := first.2.2.2.2.2 whole .logLevel
  refine ⟨last.given [] warnings [numbered] .warning rfl ⟨accepts, gives⟩ ?_, by decide⟩
  exact List.forall_mem_singleton.mpr fun _ accepted => rejects accepted.1

theorem update_stores_before_failing :
    ¬ Accepts flagsFirst ∧ (update {} flagsFirst).2 = some .logLevel ∧
      (update {} flagsFirst).1 = { requireVector := false, strictNames := true } := by
  refine ⟨?_, by decide, by decide⟩
  intro accepts
  have ended : (update {} flagsFirst).2 = none := update_error_eq_none_iff.mpr accepts
  exact absurd ended (by decide)

end Config

end CollectionSchema
