import CollectionSchema.Text.Basic

/-! # Decimal numerals

The digits of a number, and the signed integers of 64 bits that a text denotes.
-/

namespace CollectionSchema.Text

/-! ## Digits -/

/-- The number that a run of digits denotes, most significant digit first. -/
def digitsValue (digits : List UInt8) : Nat :=
  digits.foldl (fun value digit => 10 * value + (digit.toNat - 48)) 0

def natural? (digits : List UInt8) : Option Nat :=
  if !digits.isEmpty && digits.all Ascii.isDigit then some (digitsValue digits) else none

theorem digitsValue_append (front : List UInt8) (last : UInt8) :
    digitsValue (front ++ [last]) = 10 * digitsValue front + (last.toNat - 48) := by
  simp [digitsValue]

/-! ## Rendering -/

def digitByte (digit : Nat) : UInt8 := (48 + digit).toUInt8

/-- The digits of a number without leading zeros; the measure is the number itself. -/
def digitsOf (value : Nat) : List UInt8 :=
  if value < 10 then [digitByte value]
  else digitsOf (value / 10) ++ [digitByte (value % 10)]

theorem toNat_digitByte {digit : Nat} (small : digit < 10) :
    (digitByte digit).toNat = 48 + digit := by
  simp only [digitByte, Nat.toUInt8, UInt8.toNat_ofNat']
  omega

theorem isDigit_digitByte {digit : Nat} (small : digit < 10) :
    Ascii.isDigit (digitByte digit) = true := by
  have value := toNat_digitByte small
  simp only [Ascii.isDigit, Bool.and_eq_true, decide_eq_true_eq, UInt8.le_iff_toNat_le, value,
    UInt8.reduceToNat]
  omega

theorem digitsOf_ne_nil (value : Nat) : digitsOf value ≠ [] := by
  unfold digitsOf
  split <;> simp

theorem all_isDigit_digitsOf (value : Nat) : (digitsOf value).all Ascii.isDigit = true := by
  induction value using digitsOf.induct with
  | case1 value small =>
      unfold digitsOf
      simp [small, isDigit_digitByte small]
  | case2 value large induction =>
      unfold digitsOf
      rw [if_neg large, List.all_append, induction]
      simp [isDigit_digitByte (Nat.mod_lt value (by decide : 10 > 0))]

theorem digitsValue_digitsOf (value : Nat) : digitsValue (digitsOf value) = value := by
  induction value using digitsOf.induct with
  | case1 value small =>
      unfold digitsOf
      rw [if_pos small]
      simp [digitsValue, toNat_digitByte small]
  | case2 value large induction =>
      unfold digitsOf
      rw [if_neg large, digitsValue_append, induction,
        toNat_digitByte (Nat.mod_lt value (by decide : 10 > 0))]
      omega

def ofNat (value : Nat) : Text := ⟨digitsOf value⟩

def ofInt : Int → Text
  | .ofNat value => ofNat value
  | .negSucc value => ⟨Ascii.minus :: digitsOf (value + 1)⟩

/-! ## Reading -/

/-- The integer, if it is one of the signed integers of 64 bits. -/
def int64? (value : Int) : Option Int64 :=
  if -0x8000000000000000 ≤ value ∧ value < 0x8000000000000000 then some (Int64.ofInt value)
  else none

/-- The integer that some bytes begin with, and the bytes that follow it. -/
structure Scan where
  /-- None for an integer that 64 bits do not hold. -/
  value? : Option Int64
  rest : List UInt8

/-- The integer, if nothing follows it. -/
def Scan.whole? : Scan → Option Int64
  | ⟨value?, []⟩ => value?
  | _ => none

def scanDigits (sign : Int) (bytes : List UInt8) : Option Scan :=
  (natural? (bytes.takeWhile Ascii.isDigit)).map fun (value : Nat) =>
    ⟨int64? (sign * value), bytes.dropWhile Ascii.isDigit⟩

/-- Reads as far as the digits go. Blanks and a sign of either kind may come before them. -/
def scan? (bytes : List UInt8) : Option Scan :=
  match bytes.dropWhile Ascii.isBlank with
  | [] => none
  | first :: rest =>
      if first = Ascii.minus then scanDigits (-1) rest
      else if first = Ascii.plus then scanDigits 1 rest
      else scanDigits 1 (first :: rest)

/-- Digits with at most a minus sign before them, up to the first NUL byte. -/
def integer? (text : Text) : Option Int64 :=
  match text.bytes with
  | [] => none
  | first :: _ =>
      -- A scan alone would also take blanks and a plus sign.
      if Ascii.isDigit first || first = Ascii.minus then
        (scan? text.untilNul.bytes).bind Scan.whole?
      else none

end CollectionSchema.Text
