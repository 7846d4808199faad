import CollectionSchema.Text.Basic

/-! # Flags

Flags are written as one of three words each way, in any case.
-/

namespace CollectionSchema.Text

def flag? (text : Text) : Option Bool :=
  if text.lower ∈ (["true", "1", "yes"] : List Text) then some true
  else if text.lower ∈ (["false", "0", "no"] : List Text) then some false
  else none

/-- The word that messages use for a flag. -/
def ofFlag (flag : Bool) : Text := if flag then "true" else "false"

end CollectionSchema.Text
