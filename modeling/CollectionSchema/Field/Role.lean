import CollectionSchema.Text.Basic

/-! # Roles

Every field is the key, a data field or a vector field.
-/

namespace CollectionSchema

inductive Role
  | key
  | data
  | vector
deriving DecidableEq

namespace Role

def code : Role → Int
  | key => 1
  | data => 2
  | vector => 3

def ofCode? : Int → Option Role
  | 1 => some key
  | 2 => some data
  | 3 => some vector
  | _ => none

def name : Role → Text
  | key => "key"
  | data => "data"
  | vector => "vector"

/-- The name for a code; codes of no role have a name of their own. -/
def nameOfCode (code : Int) : Text := ((ofCode? code).map name).getD "unknown"

/-- Roles are written by name, in any case. -/
def parse? (token : Text) : Option Role :=
  let lower := token.lower
  if lower = "key" then some key
  else if lower = "data" then some data
  else if lower = "vector" then some vector
  else none

@[simp] theorem parse?_name (role : Role) : parse? role.name = some role := by
  cases role <;> decide

end Role

end CollectionSchema
