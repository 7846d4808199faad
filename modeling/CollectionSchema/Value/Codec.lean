import CollectionSchema.Value.Type

/-! # Values in rows

How a member's value is written to a row and read from one. The shapes that types
have are stated apart from the reading, which follows them for all values but
integers that wrap.
-/

namespace CollectionSchema

namespace ValueType

/-! ## Writing -/

/-- A row holds an integer as a signed one of 64 bits; larger unsigned ones wrap. -/
def encode : (type : ValueType) → type.Value → Json
  | string, text => .string text
  | bool, flag => .bool flag
  | integer _, value => .int (Int64.ofInt value.number)
  | real precision, number => .double (precision.widen number)
  | json, value => value
  | vector precision, elements =>
      .array (elements.map fun element => .double (precision.widen element))
  | vectorOrText _ _, .text source => .string source
  | vectorOrText precision _, .vector elements =>
      .array (elements.map fun element => .double (precision.widen element))
  | optional _, none => .null
  | optional inner, some value => encode inner value

/-! ## Reading -/

def decodeVector (precision : Precision) : Json → Option (List precision.Element)
  | .array elements => elements.mapM fun element => element.number?.map precision.narrow
  | _ => none

/-- A double is never taken for an integer, while any number is taken for a real one. A
large integer has wrapped before it is held against the bounds of the type. -/
def decode : (type : ValueType) → Json → Option type.Value
  | string, .string text => some text
  | string, _ => none
  | bool, .bool flag => some flag
  | bool, _ => none
  | integer kind, .int number => IntegerKind.Value.ofInt? kind number.toInt
  | integer kind, .large number => IntegerKind.Value.ofInt? kind number.wrapped.toInt
  | integer _, _ => none
  | real precision, number => number.number?.map precision.narrow
  | json, value => some value
  | vector precision, value => decodeVector precision value
  | vectorOrText _ _, .string source => some (.text source)
  | vectorOrText precision _, value => (decodeVector precision value).map .vector
  | optional _, .null => some none
  | optional inner, value => (decode inner value).map some

/-- Reading into a variable: a value that is not read leaves it as it is. -/
def decodeInto (type : ValueType) (held : type.Value) (value : Json) : type.Value :=
  (type.decode value).getD held

/-! ## Shapes -/

end ValueType

end CollectionSchema
