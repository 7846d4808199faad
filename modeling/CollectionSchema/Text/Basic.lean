/-! # Texts

Texts are byte strings: names, tokens and messages are compared byte by byte,
and every character class below knows ASCII only.
-/

namespace CollectionSchema

/-! ## ASCII bytes -/

namespace Ascii

def isUpper (byte : UInt8) : Bool := 65 ≤ byte && byte ≤ 90

def isLower (byte : UInt8) : Bool := 97 ≤ byte && byte ≤ 122

def isLetter (byte : UInt8) : Bool := isUpper byte || isLower byte

def isDigit (byte : UInt8) : Bool := 48 ≤ byte && byte ≤ 57

def underscore : UInt8 := 95

/-- A space, or one of the five control bytes from the tabulator to the carriage return. -/
def isBlank (byte : UInt8) : Bool := byte == 32 || (9 ≤ byte && byte ≤ 13)

def plus : UInt8 := 43

def minus : UInt8 := 45

def equals : UInt8 := 61

def nul : UInt8 := 0

/-- Only the letters A to Z have another lower-case form. -/
def lower (byte : UInt8) : UInt8 := if isUpper byte then byte + 32 else byte

end Ascii

/-! ## Texts -/

structure Text where
  bytes : List UInt8
deriving DecidableEq

namespace Text

@[ext] theorem ext {left right : Text} (equal : left.bytes = right.bytes) :
    left = right := by
  cases left
  cases right
  exact congrArg Text.mk equal

/-- The UTF-8 bytes of a string. -/
def ofString (characters : String) : Text := ⟨characters.toByteArray.data.toList⟩

instance : Coe String Text := ⟨ofString⟩

/-- Distinct strings are distinct texts, so literals can be told apart. -/
@[simp] theorem ofString_inj {left right : String} :
    ofString left = ofString right ↔ left = right := by
  constructor
  · intro equal
    have bytes : left.toByteArray.data.toList = right.toByteArray.data.toList :=
      congrArg Text.bytes equal
    exact String.toByteArray_inj.1 (ByteArray.ext (Array.toList_inj.1 bytes))
  · exact fun equal => congrArg ofString equal

def empty : Text := ⟨[]⟩

def isEmpty (text : Text) : Bool := text.bytes.isEmpty

@[simp] theorem isEmpty_iff {text : Text} : text.isEmpty = true ↔ text = empty := by
  simp [isEmpty, empty, Text.ext_iff]

@[simp] theorem isEmpty_eq_false_iff {text : Text} :
    text.isEmpty = false ↔ text ≠ empty := by
  rw [← Bool.not_eq_true, isEmpty_iff]

instance : Inhabited Text := ⟨empty⟩

instance : Append Text := ⟨fun left right => ⟨left.bytes ++ right.bytes⟩⟩

@[simp] theorem bytes_append (left right : Text) :
    (left ++ right).bytes = left.bytes ++ right.bytes := rfl

theorem append_assoc (first second third : Text) :
    first ++ second ++ third = first ++ (second ++ third) := by
  ext1
  simp

/-- What follows a beginning in a text that has it. -/
def after? (beginning text : Text) : Option Text :=
  let length := beginning.bytes.length
  if text.bytes.take length = beginning.bytes then some ⟨text.bytes.drop length⟩ else none

/-! Texts are ordered as their byte lists, a proper beginning coming first. -/

instance : LT Text := ⟨fun left right => left.bytes < right.bytes⟩

instance (left right : Text) : Decidable (left < right) :=
  inferInstanceAs (Decidable (left.bytes < right.bytes))

theorem lt_irrefl (text : Text) : ¬ text < text :=
  List.lt_irrefl (α := UInt8) text.bytes

theorem lt_trans {first second third : Text} (left : first < second)
    (right : second < third) : first < third :=
  List.lt_trans (α := UInt8) left right

theorem ne_of_lt {left right : Text} (less : left < right) : left ≠ right := by
  intro equal
  subst equal
  exact lt_irrefl _ less

theorem lt_of_not_lt_of_ne {left right : Text} (notLess : ¬ left < right)
    (different : left ≠ right) : right < left := by
  by_cases greater : right < left
  · exact greater
  · exact absurd (Text.ext (List.le_antisymm (α := UInt8) greater notLess)) different

/-! ## Case and names -/

def lower (text : Text) : Text := ⟨text.bytes.map Ascii.lower⟩

/-- A letter or underscore followed by letters, digits and underscores. -/
def isIdentifier (text : Text) : Bool :=
  match text.bytes with
  | [] => false
  | first :: rest =>
      (Ascii.isLetter first || first == Ascii.underscore) &&
        rest.all fun byte =>
          Ascii.isLetter byte || Ascii.isDigit byte || byte == Ascii.underscore

/-! ## The part before a NUL -/

/-- What a reader sees that takes the first NUL byte for the end of the text. -/
def untilNul (text : Text) : Text := ⟨text.bytes.takeWhile (· != Ascii.nul)⟩

theorem untilNul_eq_self {text : Text} (absent : Ascii.nul ∉ text.bytes) :
    text.untilNul = text := by
  have whole : ∀ bytes : List UInt8, Ascii.nul ∉ bytes →
      bytes.takeWhile (· != Ascii.nul) = bytes := by
    intro bytes
    induction bytes with
    | nil => exact fun _ => rfl
    | cons head tail induction =>
        intro absent
        rw [List.mem_cons, not_or] at absent
        have kept : (head != Ascii.nul) = true := by simpa using Ne.symm absent.1
        rw [List.takeWhile_cons, kept, if_pos rfl, induction absent.2]
  exact Text.ext (whole text.bytes absent)

end Text

end CollectionSchema
