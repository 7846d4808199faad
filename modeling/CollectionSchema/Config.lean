import CollectionSchema.Collection.Validation
import CollectionSchema.Log
import CollectionSchema.Text.Flag

/-! # Configuration

The validation options and the log threshold of a process. They start from the
environment, where a text that does not read falls back to the default, and are
updated from documents, where it is an error.
-/

namespace CollectionSchema

/-! ## Environment -/

/-- The variables that are set; no name of one is empty or holds an equals sign. -/
abbrev Environment := Dictionary Text Text

namespace Environment

def acceptsName (name : Text) : Bool := !name.isEmpty && !name.bytes.contains Ascii.equals

/-- Names and texts end at their first NUL byte. A variable that is set again has
its last text. -/
def ofList (settings : List (Text × Text)) : Environment :=
  Dictionary.ofList <|
    (settings.map fun entry => (entry.1.untilNul, entry.2.untilNul)).filter
      fun entry => acceptsName entry.1

/-- A variable is kept as one line, its name before its text. -/
def line (entry : Text × Text) : Text := entry.1 ++ "=" ++ entry.2

/-- What follows a name and an equals sign in the line of a variable. A name that
holds an equals sign reaches into the text of the variable. -/
def value? (environment : Environment) (name : Text) : Option Text :=
  environment.findSome? fun entry => Text.after? (name.untilNul ++ "=") (line entry)

def warning (name text complaint : Text) : Text :=
  "[ConfigLimits] Warning: " ++ name.untilNul ++ "=" ++ text ++ " " ++ complaint

/-- A flag, with a line for a text that is none. -/
def flag (environment : Environment) (name : Text) (default : Bool) : Bool × List Text :=
  match environment.value? name with
  | none => (default, [])
  | some text =>
      match text.flag? with
      | some flag => (flag, [])
      | none =>
          (default, [warning name text ("invalid boolean, using default " ++ .ofFlag default)])

/-- A log level, with a line for a text that is none. -/
def level (environment : Environment) (name : Text) (default : LogLevel) :
    LogLevel × List Text :=
  match environment.value? name with
  | none => (default, [])
  | some text =>
      match LogLevel.parse? text with
      | some level => (level, [])
      | none =>
          (default, [warning name text
            "invalid log level, valid values: debug, info, warning, error"])

/-- The line for a variable that is set, whether its text could be read or not. -/
def useLines (environment : Environment) (name used : Text) : List Text :=
  if (environment.value? name).isSome then
    ["[Config] Using " ++ name ++ "=" ++ used ++ " from environment"]
  else []

end Environment

/-! ## Settings -/

structure Config where
  requireVector : Bool := true
  strictNames : Bool := false
  logLevel : LogLevel := .info
deriving DecidableEq

namespace Config

/-- The settings of an environment, with the lines that tell how they came about. -/
def ofEnvironment (environment : Environment) : Config × List Text :=
  let requireName : Text := "VECSCHEMA_REQUIRE_VECTOR_FIELD"
  let strictName : Text := "VECSCHEMA_STRICT_STORAGE_NAMES"
  let levelName : Text := "VECSCHEMA_LOG_LEVEL"
  let defaults : Config := {}
  let (requireVector, requireLines) := environment.flag requireName defaults.requireVector
  let (strictNames, strictLines) := environment.flag strictName defaults.strictNames
  let (logLevel, levelLines) := environment.level levelName defaults.logLevel
  ({ requireVector, strictNames, logLevel },
    requireLines ++ environment.useLines requireName (.ofFlag requireVector) ++
      strictLines ++ environment.useLines strictName (.ofFlag strictNames) ++
      levelLines ++ environment.useLines levelName logLevel.name)

/-- The options for drafts and registries. -/
def options (config : Config) : ValidationOptions :=
  { requireVector := config.requireVector, strictNames := config.strictNames }

def toJson (config : Config) : Json :=
  .object [
    ("RequireVectorField", .bool config.requireVector),
    ("StrictStorageNames", .bool config.strictNames),
    ("LogLevel", .string config.logLevel.name)]

/-- The threshold becomes the level of the configuration. -/
def applyTo (config : Config) (journal : Journal) : Journal :=
  { journal with minimum := config.logLevel.rank }

/-! ## Updates -/

inductive UpdateError
  | notBoolean (setting : Text)
  | logLevel
deriving DecidableEq

def UpdateError.message : UpdateError → Text
  | notBoolean setting => "Invalid value for " ++ setting ++ ", expected a boolean"
  | logLevel => "Invalid value for LogLevel, valid values: debug, info, warning, error"

def setLogLevel (config : Config) (name : Text) : Except UpdateError Config :=
  match LogLevel.parse? name with
  | some level => .ok { config with logLevel := level }
  | none => .error .logLevel

/-- A flag setting of an update: absent, given, or of the wrong kind. -/
def flagSetting (json : Json) (setting : Text) : Except UpdateError (Option Bool) :=
  match json.member? setting with
  | none => .ok none
  | some (.bool flag) => .ok (some flag)
  | some _ => .error (.notBoolean setting)

def levelSetting (json : Json) : Except UpdateError (Option Text) :=
  match json.member? "LogLevel" with
  | none => .ok none
  | some (.string name) => .ok (some name)
  | some _ => .error .logLevel

def updateRequireVector (json : Json) (config : Config) : Except UpdateError Config := do
  let flag? ← flagSetting json "RequireVectorField"
  return { config with requireVector := flag?.getD config.requireVector }

def updateStrictNames (json : Json) (config : Config) : Except UpdateError Config := do
  let flag? ← flagSetting json "StrictStorageNames"
  return { config with strictNames := flag?.getD config.strictNames }

def updateLogLevel (json : Json) (config : Config) : Except UpdateError Config := do
  match ← levelSetting json with
  | none => return config
  | some name => config.setLogLevel name

/-- Settings are updated one after the other; those before an error stay updated. -/
def updateInOrder (config : Config) :
    List (Config → Except UpdateError Config) → Config × Option UpdateError
  | [] => (config, none)
  | update :: rest =>
      match update config with
      | .ok updated => updated.updateInOrder rest
      | .error error => (config, some error)

def update (config : Config) (json : Json) : Config × Option UpdateError :=
  config.updateInOrder [updateRequireVector json, updateStrictNames json, updateLogLevel json]

end Config

end CollectionSchema
