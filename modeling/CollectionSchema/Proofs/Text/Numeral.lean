import CollectionSchema.Text.Decimal
import Mathlib.Data.List.Induction
import Mathlib.Data.List.TakeWhile
import Mathlib.Data.Nat.Digits.Defs

/-! # Decimal integers

A text reads as an integer if and only if what stands before its first NUL byte is a
decimal integer, and one of the signed integers of 64 bits.
-/

namespace CollectionSchema.Text

/-! ## Digits -/

def AreDigits (bytes : List UInt8) : Prop :=
  bytes ≠ [] ∧ ∀ byte ∈ bytes, Ascii.isDigit byte = true

/-- The number in base ten. -/
def decimalValue (bytes : List UInt8) : Nat :=
  Nat.ofDigits 10 (bytes.reverse.map fun byte => byte.toNat - 48)

theorem digitsValue_eq (bytes : List UInt8) : digitsValue bytes = decimalValue bytes := by
  induction bytes using List.reverseRecOn with
  | nil => rfl
  | append_singleton front last induction =>
      rw [digitsValue_append, induction, decimalValue, decimalValue, List.reverse_concat,
        List.map_cons, Nat.ofDigits_cons]
      exact Nat.add_comm _ _

theorem natural?_eq_some_iff {bytes : List UInt8} {value : Nat} :
    natural? bytes = some value ↔ AreDigits bytes ∧ decimalValue bytes = value := by
  simp [natural?, AreDigits, digitsValue_eq]

/-- The sign is no digit. -/
theorem not_areDigits_minus (rest : List UInt8) : ¬ AreDigits (Ascii.minus :: rest) := by
  intro digits
  exact absurd (digits.2 Ascii.minus List.mem_cons_self) (by decide)

/-! ## Integers -/

/-- Digits with at most a minus sign before them stand for an integer. -/
inductive Denotes : Text → Int → Prop
  | natural {bytes : List UInt8} (digits : AreDigits bytes) : Denotes ⟨bytes⟩ (decimalValue bytes)
  | negative {bytes : List UInt8} (digits : AreDigits bytes) :
      Denotes ⟨Ascii.minus :: bytes⟩ (-decimalValue bytes)

theorem not_denotes_empty (value : Int) : ¬ Denotes ⟨[]⟩ value := by
  intro denotes
  cases denotes with
  | natural digits => exact digits.1 rfl

theorem denotes_minus_iff {rest : List UInt8} {value : Int} :
    Denotes ⟨Ascii.minus :: rest⟩ value ↔ AreDigits rest ∧ -decimalValue rest = value := by
  constructor
  · intro denotes
    cases denotes with
    | natural digits => exact absurd digits (not_areDigits_minus rest)
    | negative digits => exact ⟨digits, rfl⟩
  · intro parts
    rcases parts with ⟨digits, rfl⟩
    exact .negative digits

theorem denotes_cons_iff {first : UInt8} {rest : List UInt8} {value : Int}
    (unsigned : first ≠ Ascii.minus) :
    Denotes ⟨first :: rest⟩ value ↔
      AreDigits (first :: rest) ∧ decimalValue (first :: rest) = value := by
  constructor
  · intro denotes
    cases denotes with
    | natural digits => exact ⟨digits, rfl⟩
    | negative => exact absurd rfl unsigned
  · intro parts
    rcases parts with ⟨digits, rfl⟩
    exact .natural digits

/-! ## Reading -/

theorem int64?_eq_some_iff {value : Int} {count : Int64} :
    int64? value = some count ↔ count.toInt = value := by
  have lower := Int64.le_toInt count
  have upper := Int64.toInt_lt count
  simp only [int64?, Option.ite_none_right_eq_some, Option.some.injEq]
  constructor
  · intro parts
    rcases parts with ⟨⟨above, below⟩, rfl⟩
    exact Int64.toInt_ofInt_of_le above below
  · intro same
    subst same
    exact ⟨⟨lower, upper⟩, Int64.ofInt_toInt count⟩

/-! ### Scans

A scan is lenient, but the first byte of a text decides whether there is one at all. -/

theorem Scan.whole?_eq_some_iff {scan : Scan} {count : Int64} :
    scan.whole? = some count ↔ scan.value? = some count ∧ scan.rest = [] := by
  rcases scan with ⟨value?, rest⟩
  cases rest <;> simp [whole?]

/-- The scan ends at the end of the bytes only if all of them are digits. -/
theorem scanDigits_eq_some_iff {sign : Int} {bytes : List UInt8} {count : Int64} :
    (scanDigits sign bytes).bind Scan.whole? = some count ↔
      AreDigits bytes ∧ sign * decimalValue bytes = count.toInt := by
  rw [scanDigits, Option.bind_map, Option.bind_eq_some_iff]
  simp only [Function.comp_apply, Scan.whole?_eq_some_iff, natural?_eq_some_iff,
    int64?_eq_some_iff, List.dropWhile_eq_nil_iff]
  constructor
  · intro scanned
    rcases scanned with ⟨_, ⟨digits, rfl⟩, same, all⟩
    rw [List.takeWhile_eq_self_iff.mpr all] at digits same
    exact ⟨digits, same.symm⟩
  · intro parts
    rcases parts with ⟨digits, same⟩
    refine ⟨_, ⟨?_, rfl⟩, ?_, digits.2⟩
    · rw [List.takeWhile_eq_self_iff.mpr digits.2]
      exact digits
    · rw [List.takeWhile_eq_self_iff.mpr digits.2]
      exact same.symm

theorem ne_of_isDigit {byte other : UInt8} (digit : Ascii.isDigit byte = true)
    (noDigit : Ascii.isDigit other = false) : byte ≠ other := by
  intro same
  subst same
  exact absurd digit (ne_true_of_eq_false noDigit)

theorem not_isBlank_of_isDigit {byte : UInt8} (digit : Ascii.isDigit byte = true) :
    Ascii.isBlank byte = false := by
  simp only [Ascii.isDigit, Bool.and_eq_true, decide_eq_true_eq, UInt8.le_iff_toNat_le,
    UInt8.reduceToNat] at digit
  simp only [Ascii.isBlank, Bool.or_eq_false_iff, beq_eq_false_iff_ne, Bool.and_eq_false_iff,
    decide_eq_false_iff_not, UInt8.le_iff_toNat_le, UInt8.reduceToNat, ne_eq,
    ← UInt8.toNat_inj]
  omega

theorem scan?_cons_of_isDigit {first : UInt8} {rest : List UInt8}
    (digit : Ascii.isDigit first = true) :
    scan? (first :: rest) = scanDigits 1 (first :: rest) := by
  have noMinus : first ≠ Ascii.minus := ne_of_isDigit digit (by decide)
  have noPlus : first ≠ Ascii.plus := ne_of_isDigit digit (by decide)
  rw [scan?, List.dropWhile_cons_of_neg (by simp [not_isBlank_of_isDigit digit])]
  simp only [if_neg noMinus, if_neg noPlus]

theorem scan?_cons_minus (rest : List UInt8) :
    scan? (Ascii.minus :: rest) = scanDigits (-1) rest := rfl

theorem Denotes.begins {text : Text} {value : Int} (denotes : text.Denotes value) :
    ∃ first rest, text.bytes = first :: rest ∧
      (Ascii.isDigit first = true ∨ first = Ascii.minus) := by
  cases denotes with
  | @natural bytes digits =>
      rcases List.exists_cons_of_ne_nil digits.1 with ⟨first, rest, rfl⟩
      exact ⟨first, rest, rfl, .inl (digits.2 first List.mem_cons_self)⟩
  | @negative bytes => exact ⟨Ascii.minus, bytes, rfl, .inr rfl⟩

/-! ### Texts -/

theorem untilNul_cons {first : UInt8} (present : first ≠ Ascii.nul) (rest : List UInt8) :
    (⟨first :: rest⟩ : Text).untilNul = ⟨first :: (⟨rest⟩ : Text).untilNul.bytes⟩ := by
  simp [untilNul, present]

theorem untilNul_begins {first last : UInt8} {rest bytes : List UInt8}
    (seen : (⟨first :: rest⟩ : Text).untilNul.bytes = last :: bytes) : first = last := by
  by_cases absent : first = Ascii.nul
  · subst absent
    cases seen
  · rw [untilNul_cons absent] at seen
    exact (List.cons.inj seen).1

theorem integer?_eq_some_iff {text : Text} {count : Int64} :
    text.integer? = some count ↔ text.untilNul.Denotes count.toInt := by
  rcases text with ⟨_ | ⟨first, rest⟩⟩
  · exact iff_of_false (Option.some_ne_none count).symm (not_denotes_empty _)
  simp only [integer?]
  by_cases digit : Ascii.isDigit first = true
  · have present : first ≠ Ascii.nul := ne_of_isDigit digit (by decide)
    have unsigned : first ≠ Ascii.minus := ne_of_isDigit digit (by decide)
    rw [digit, Bool.true_or, if_pos rfl, untilNul_cons present, scan?_cons_of_isDigit digit,
      scanDigits_eq_some_iff, one_mul, denotes_cons_iff unsigned]
  · by_cases signed : first = Ascii.minus
    · subst signed
      rw [if_pos (by decide), untilNul_cons (by decide), scan?_cons_minus,
        scanDigits_eq_some_iff, denotes_minus_iff, neg_one_mul]
    · rw [if_neg (by simp [digit, signed])]
      refine iff_of_false (Option.some_ne_none count).symm fun denotes => ?_
      rcases denotes.begins with ⟨last, bytes, seen, allowed⟩
      rw [← untilNul_begins seen] at allowed
      exact allowed.elim digit signed

/-! ## Limits -/

/-- The integer is one of the signed integers of 64 bits. -/
def InLimits (value : Int) : Prop :=
  -0x8000000000000000 ≤ value ∧ value < 0x8000000000000000

theorem exists_toInt_iff {value : Int} :
    (∃ count : Int64, count.toInt = value) ↔ InLimits value := by
  constructor
  · intro held
    rcases held with ⟨count, rfl⟩
    exact ⟨Int64.le_toInt count, Int64.toInt_lt count⟩
  · intro limits
    exact ⟨Int64.ofInt value, Int64.toInt_ofInt_of_le limits.1 limits.2⟩

theorem Denotes.unique {text : Text} {value other : Int} (denotes : text.Denotes value)
    (otherDenotes : text.Denotes other) : value = other := by
  cases denotes with
  | natural digits =>
      cases otherDenotes with
      | natural => rfl
      | negative => exact absurd digits (not_areDigits_minus _)
  | negative => exact (denotes_minus_iff.mp otherDenotes).2

theorem Denotes.nul_notMem {text : Text} {value : Int} (denotes : text.Denotes value) :
    Ascii.nul ∉ text.bytes := by
  have noDigit : ∀ {bytes : List UInt8}, AreDigits bytes → Ascii.nul ∉ bytes := by
    intro bytes digits listed
    exact absurd (digits.2 _ listed) (by decide)
  cases denotes with
  | natural digits => exact noDigit digits
  | negative digits =>
      intro listed
      rcases List.mem_cons.mp listed with same | later
      · exact absurd same (by decide)
      · exact noDigit digits later

/-- A text without a NUL byte is seen whole. -/
theorem Denotes.integer?_eq_some_iff {text : Text} {value : Int} (denotes : text.Denotes value)
    {count : Int64} : text.integer? = some count ↔ count.toInt = value := by
  rw [Text.integer?_eq_some_iff, untilNul_eq_self denotes.nul_notMem]
  constructor
  · intro also
    exact also.unique denotes
  · intro same
    exact same ▸ denotes

theorem Denotes.integer?_eq_none_iff {text : Text} {value : Int} (denotes : text.Denotes value) :
    text.integer? = none ↔ ¬ InLimits value := by
  rw [← exists_toInt_iff, not_exists, Option.eq_none_iff_forall_ne_some]
  exact forall_congr' fun count => not_congr denotes.integer?_eq_some_iff

theorem Denotes.integer?_congr {text other : Text} {value : Int} (denotes : text.Denotes value)
    (otherDenotes : other.Denotes value) : text.integer? = other.integer? := by
  ext count
  rw [denotes.integer?_eq_some_iff, otherDenotes.integer?_eq_some_iff]

theorem exists_integer?_iff {text : Text} :
    (∃ count, text.integer? = some count) ↔
      ∃ value, text.untilNul.Denotes value ∧ InLimits value := by
  simp only [integer?_eq_some_iff, ← exists_toInt_iff]
  constructor
  · intro read
    rcases read with ⟨count, denotes⟩
    exact ⟨count.toInt, denotes, count, rfl⟩
  · intro held
    rcases held with ⟨_, denotes, count, rfl⟩
    exact ⟨count, denotes⟩

/-! ### Zeros in front -/

def zero : UInt8 := 48

theorem decimalValue_zeros (count : Nat) (bytes : List UInt8) :
    decimalValue (List.replicate count zero ++ bytes) = decimalValue bytes := by
  rw [decimalValue, List.reverse_append, List.reverse_replicate, List.map_append,
    List.map_replicate]
  exact Nat.ofDigits_append_replicate_zero _

theorem areDigits_zeros {bytes : List UInt8} (digits : AreDigits bytes) (count : Nat) :
    AreDigits (List.replicate count zero ++ bytes) := by
  constructor
  · exact List.append_ne_nil_of_right_ne_nil _ digits.1
  · intro byte listed
    rcases List.mem_append.mp listed with front | back
    · rw [List.eq_of_mem_replicate front]
      rfl
    · exact digits.2 byte back

/-! ### Numerals that are written -/

theorem areDigits_digitsOf (value : Nat) : AreDigits (digitsOf value) :=
  ⟨digitsOf_ne_nil value, List.all_eq_true.mp (all_isDigit_digitsOf value)⟩

theorem decimalValue_digitsOf (value : Nat) : decimalValue (digitsOf value) = value := by
  rw [← digitsValue_eq, digitsValue_digitsOf]

theorem denotes_ofInt (value : Int) : (ofInt value).Denotes value := by
  cases value with
  | ofNat value =>
      have denotes := Denotes.natural (areDigits_digitsOf value)
      rwa [decimalValue_digitsOf] at denotes
  | negSucc value =>
      have denotes := Denotes.negative (areDigits_digitsOf (value + 1))
      rwa [decimalValue_digitsOf] at denotes

/-! ### Integers at their limits -/

/-- A text is read if and only if it denotes, up to its first NUL byte, an integer of 64
bits, and as that integer; otherwise a variable keeps its value. Zeros in front change
nothing, of the numbers too large none is read however many digits it has, and every
integer is read from its own numeral. -/
theorem integers_read_up_to_limits (text : Text) (held : Int64) :
    ((∃ count, text.integer? = some count) ↔
      ∃ value, text.untilNul.Denotes value ∧ InLimits value) ∧
    (∀ value, text.untilNul.Denotes value → InLimits value →
      (text.integer?.getD held).toInt = value) ∧
    ((∀ value, text.untilNul.Denotes value → ¬ InLimits value) →
      text.integer?.getD held = held) ∧
    (∀ count digits, AreDigits digits →
      let zeros := List.replicate count zero
      integer? ⟨zeros ++ digits⟩ = integer? ⟨digits⟩ ∧
        integer? ⟨Ascii.minus :: (zeros ++ digits)⟩ = integer? ⟨Ascii.minus :: digits⟩) ∧
    (∀ digits, AreDigits digits →
      (integer? ⟨digits⟩ = none ↔ 0x8000000000000000 ≤ decimalValue digits) ∧
        (integer? ⟨Ascii.minus :: digits⟩ = none ↔ 0x8000000000000000 < decimalValue digits)) ∧
    integer? "-9223372036854775808" = some Int64.minValue ∧
    ∀ count : Int64, (ofInt count.toInt).integer? = some count := by
  refine ⟨exists_integer?_iff, ?_, ?_, ?_, ?_, by decide, ?_⟩
  · intro value denotes limits
    rcases exists_toInt_iff.mpr limits with ⟨count, rfl⟩
    rw [integer?_eq_some_iff.mpr denotes]
    rfl
  · intro beyond
    have unread : text.integer? = none := by
      rw [← Option.not_isSome_iff_eq_none, Option.isSome_iff_exists, exists_integer?_iff]
      intro read
      rcases read with ⟨value, denotes, limits⟩
      exact beyond value denotes limits
    rw [unread, Option.getD_none]
  · intro count digits areDigits zeros
    have same := decimalValue_zeros count digits
    have plain := Denotes.natural (areDigits_zeros areDigits count)
    have signed := Denotes.negative (areDigits_zeros areDigits count)
    rw [same] at plain signed
    exact ⟨plain.integer?_congr (.natural areDigits), signed.integer?_congr (.negative areDigits)⟩
  · intro digits areDigits
    rw [(Denotes.natural areDigits).integer?_eq_none_iff,
      (Denotes.negative areDigits).integer?_eq_none_iff, InLimits, InLimits]
    omega
  · intro count
    exact (denotes_ofInt count.toInt).integer?_eq_some_iff.mpr rfl

/-- What follows a NUL byte is not seen, zeros may stand after a minus sign, and a plus sign
is refused. -/
theorem integers_read_up_to_limits_seven :
    (∀ held, ((⟨[55, 0, 120]⟩ : Text).integer?.getD held).toInt = 7) ∧
      integer? "-007" = integer? "-7" ∧ (integer? "+7").getD 17 = 17 := by
  have digits : AreDigits [55] := ⟨List.cons_ne_nil _ _, List.forall_mem_singleton.mpr rfl⟩
  refine ⟨?_, ?_, ?_⟩
  · intro held
    have read := (integers_read_up_to_limits ⟨[55, 0, 120]⟩ held).2.1
    exact read 7 (.natural digits) ⟨by decide, by decide⟩
  · exact ((integers_read_up_to_limits "-7" 17).2.2.2.1 2 [55] digits).2
  · apply (integers_read_up_to_limits "+7" 17).2.2.1
    intro value denotes
    rcases denotes.begins with ⟨first, rest, seen, allowed⟩
    cases seen
    exact absurd allowed (by decide)

end CollectionSchema.Text
