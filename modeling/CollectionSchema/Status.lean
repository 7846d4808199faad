import CollectionSchema.Text.Decimal

/-! # Statuses

The outcome of an operation is a status: all is well, or a failure with a code
and a text for people.
-/

namespace CollectionSchema

/-! ## Kinds of failure -/

inductive ErrorKind
  | unexpected
  | schema
  | validation
  | serialization
  | alreadyExists
deriving DecidableEq

namespace ErrorKind

def code : ErrorKind → Int
  | unexpected => 50001
  | schema => 50002
  | validation => 50003
  | serialization => 50004
  | alreadyExists => 50005

def ofCode? : Int → Option ErrorKind
  | 50001 => some unexpected
  | 50002 => some schema
  | 50003 => some validation
  | 50004 => some serialization
  | 50005 => some alreadyExists
  | _ => none

@[simp] theorem ofCode?_code (kind : ErrorKind) : ofCode? kind.code = some kind := by
  cases kind <;> rfl

theorem code_ne_zero (kind : ErrorKind) : kind.code ≠ 0 := by
  cases kind <;> decide

def title : ErrorKind → Text
  | unexpected => "Unexpected Error"
  | schema => "Schema Error"
  | validation => "Validation Error"
  | serialization => "Serialization Error"
  | alreadyExists => "Already Exists"

end ErrorKind

/-! ## Statuses -/

/-- Zero is the code of success, so no failure has it. -/
structure Failure where
  code : Int
  message : Text
  code_ne_zero : code ≠ 0
deriving DecidableEq

inductive Status
  | ok
  | failed (failure : Failure)
deriving DecidableEq

namespace Status

instance : Inhabited Status := ⟨ok⟩

/-- A code of zero makes the status of success, whatever the text. -/
def ofCode (code : Int) (message : Text) : Status :=
  if nonzero : code ≠ 0 then failed ⟨code, message, nonzero⟩ else ok

def failure (kind : ErrorKind) (message : Text) : Status :=
  failed ⟨kind.code, message, kind.code_ne_zero⟩

def isOk : Status → Bool
  | ok => true
  | failed _ => false

def code : Status → Int
  | ok => 0
  | failed failure => failure.code

def kind? (status : Status) : Option ErrorKind := ErrorKind.ofCode? status.code

def message : Status → Text
  | ok => "OK"
  | failed failure => failure.message

@[simp] theorem kind?_failure (kind : ErrorKind) (message : Text) :
    (failure kind message).kind? = some kind := ErrorKind.ofCode?_code kind

/-- A failure is shown with the title of its kind, or with its bare code. -/
def toText : Status → Text
  | ok => "OK"
  | failed failure =>
      match ErrorKind.ofCode? failure.code with
      | some kind => kind.title ++ ": " ++ failure.message
      | none => "Error code(" ++ Text.ofInt failure.code ++ "): " ++ failure.message

end Status

/-! ## Variables for results

An operation hands its result over in a variable of the caller. -/

/-- The value of a variable that a failure leaves as it is. -/
def assign {Error : Type u} {Value : Type v} (held : Value) : Except Error Value → Value
  | .ok value => value
  | .error _ => held

end CollectionSchema
