import CollectionSchema.Status

/-! # Attempts

Hooks, default factories, descriptions and builds are client code: each run of
one returns a value or throws.
-/

namespace CollectionSchema

/-- What client code throws: an error with a text, or something that is no error. -/
inductive Thrown
  | error (text : Text)
  | unknown
deriving DecidableEq

abbrev Attempt (Value : Type u) := Except Thrown Value

namespace Thrown

/-- The text of an error is read up to its first NUL byte. -/
def text : Thrown → Text
  | error text => text.untilNul
  | unknown => "unknown exception"

/-- The text with the operation that failed before it, if one is named. -/
def describe (operation : Text) (thrown : Thrown) : Text :=
  if operation.isEmpty then thrown.text else operation ++ ": " ++ thrown.text

def status (code : Int) (operation : Text) (thrown : Thrown) : Status :=
  .ofCode code (thrown.describe operation)

end Thrown

end CollectionSchema
