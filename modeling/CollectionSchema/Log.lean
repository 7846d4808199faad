import CollectionSchema.Text.Basic

/-! # Log

Log records, and the journal that keeps those at or above a threshold.
-/

namespace CollectionSchema

inductive LogLevel
  | debug
  | info
  | warning
  | error
deriving DecidableEq

namespace LogLevel

def rank : LogLevel → Int
  | debug => 0
  | info => 1
  | warning => 2
  | error => 3

def ofRank? : Int → Option LogLevel
  | 0 => some debug
  | 1 => some info
  | 2 => some warning
  | 3 => some error
  | _ => none

/-- A rank of no level is taken for that of information. -/
def ofRank (rank : Int) : LogLevel := (ofRank? rank).getD info

/-- The name in settings. -/
def name : LogLevel → Text
  | debug => "debug"
  | info => "info"
  | warning => "warning"
  | error => "error"

/-- The tag in journal lines. -/
def tag : LogLevel → Text
  | debug => "DEBUG"
  | info => "INFO"
  | warning => "WARNING"
  | error => "ERROR"

/-- Names are read in any case, and a warning has a short name too. -/
def parse? (name : Text) : Option LogLevel :=
  let lower := name.lower
  if lower = "debug" then some debug
  else if lower = "info" then some info
  else if lower = "warning" ∨ lower = "warn" then some warning
  else if lower = "error" then some error
  else none

end LogLevel

structure LogRecord where
  level : LogLevel
  component : Text
  message : Text
deriving DecidableEq

/-- The tag and the component in brackets; no component leaves no brackets. -/
def LogRecord.line (record : LogRecord) : Text :=
  let tagged : Text := "[" ++ record.level.tag ++ "] "
  if record.component.isEmpty then tagged ++ record.message
  else tagged ++ "[" ++ record.component ++ "] " ++ record.message

/-! ## Journals -/

/-- The threshold need not be the rank of a level. -/
structure Journal where
  minimum : Int := LogLevel.info.rank
  records : List LogRecord := []

namespace Journal

def admits (minimum : Int) (record : LogRecord) : Bool := minimum ≤ record.level.rank

def write (journal : Journal) (record : LogRecord) : Journal :=
  if admits journal.minimum record then
    { journal with records := journal.records ++ [record] }
  else journal

@[simp] theorem minimum_write (journal : Journal) (record : LogRecord) :
    (journal.write record).minimum = journal.minimum := by
  simp only [write]
  split <;> rfl

theorem records_write (journal : Journal) (record : LogRecord) :
    (journal.write record).records =
      journal.records ++ [record].filter (admits journal.minimum) := by
  by_cases admitted : admits journal.minimum record = true
  · simp [write, admitted]
  · simp [write, admitted]

end Journal

end CollectionSchema
