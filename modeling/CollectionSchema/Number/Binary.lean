/-! # Binary floating point

Floating-point numbers are their IEEE-754 words. Conversions between the two
widths and from integers go through exact magnitudes and round once, to the
nearest number of the target format and to the even one on a tie. A single that
is taken to a double and back comes back as it was.
-/

namespace CollectionSchema

/-! ## Rounding -/

/-- The value without its last places, rounded to the nearest integer, a half
going to the even one. -/
def roundHalfEven (value places : Nat) : Nat :=
  let quotient := value >>> places
  let remainder := value - quotient <<< places
  if 2 * remainder < 1 <<< places then quotient
  else if 2 * remainder = 1 <<< places then quotient + quotient % 2
  else quotient + 1

@[simp] theorem roundHalfEven_shiftLeft (value places : Nat) :
    roundHalfEven (value <<< places) places = value := by
  have positive : 0 < 1 <<< places := Nat.one_shiftLeft _ ▸ Nat.two_pow_pos places
  simp [roundHalfEven, Nat.shiftLeft_shiftRight, positive]

/-! ## Formats

Magnitudes are natural numbers of a unit that every number of both formats is a
multiple of: the least positive double, whose exponent is `-1074`. -/

/-- The unsigned part of an interchange format: how many bits hold the fraction,
how many the exponent, and the exponent of the least positive number. -/
structure BinaryFormat where
  fractionBits : Nat
  exponentBits : Nat
  lowest : Nat

namespace BinaryFormat

def single : BinaryFormat := ⟨23, 8, 925⟩

def double : BinaryFormat := ⟨52, 11, 0⟩

/-- The leading bit of a normal significand, which words leave out. -/
def leading (format : BinaryFormat) : Nat := 1 <<< format.fractionBits

/-- The word of infinity; the words above it are not numbers. -/
def infinity (format : BinaryFormat) : Nat :=
  (1 <<< format.exponentBits - 1) <<< format.fractionBits

/-- The leading bit of a payload. -/
def quiet (format : BinaryFormat) : Nat := 1 <<< (format.fractionBits - 1)

/-- The sign bit, which stands above every word. -/
def sign (format : BinaryFormat) : Nat := 1 <<< (format.exponentBits + format.fractionBits)

/-- The magnitude that a finite word denotes. -/
def magnitude (format : BinaryFormat) (word : Nat) : Nat :=
  let field := word / format.leading
  let fraction := word % format.leading
  if field = 0 then fraction <<< format.lowest
  else (format.leading + fraction) <<< (format.lowest + (field - 1))

/-- The exponent of the last bit that a magnitude keeps. -/
def lastExponent (format : BinaryFormat) (magnitude : Nat) : Nat :=
  max (magnitude.log2 - format.fractionBits) format.lowest

/-- The word nearest to a magnitude. A significand that rounds up to the next
power of two carries into the exponent, and past the largest finite number the
carry ends at infinity. -/
def round (format : BinaryFormat) (magnitude : Nat) : Nat :=
  let exponent := format.lastExponent magnitude
  min format.infinity
    ((exponent - format.lowest) * format.leading + roundHalfEven magnitude exponent)

/-! A magnitude that loses no bit is that of its word, and every word is the
nearest to its own magnitude. Both follow from the parts of a word: the steps of
its exponent above the lowest one, and the significand, whose leading bit is set
unless there is no step. -/

/-- The steps and the significand are those of a word. -/
structure Parts (format : BinaryFormat) (steps significand : Nat) : Prop where
  fits : significand < 2 * format.leading
  normal : format.leading ≤ significand ∨ steps = 0

theorem leading_pos (format : BinaryFormat) : 0 < format.leading := by
  rw [leading, Nat.one_shiftLeft]
  exact Nat.two_pow_pos _

theorem log2_shiftLeft {value : Nat} (nonzero : value ≠ 0) (exponent : Nat) :
    (value <<< exponent).log2 = value.log2 + exponent := by
  have positive := Nat.two_pow_pos exponent
  rw [Nat.shiftLeft_eq, Nat.log2_eq_iff (Nat.mul_ne_zero nonzero (by omega))]
  constructor
  · rw [Nat.pow_add]
    exact Nat.mul_le_mul_right _ (Nat.log2_self_le nonzero)
  · rw [Nat.add_right_comm, Nat.pow_add]
    exact Nat.mul_lt_mul_of_pos_right Nat.lt_log2_self positive

theorem leading_le_iff {format : BinaryFormat} {value : Nat} (nonzero : value ≠ 0) :
    format.leading ≤ value ↔ format.fractionBits ≤ value.log2 := by
  rw [leading, Nat.one_shiftLeft, Nat.le_log2 nonzero]

theorem lt_two_leading_iff {format : BinaryFormat} {value : Nat} (nonzero : value ≠ 0) :
    value < 2 * format.leading ↔ value.log2 ≤ format.fractionBits := by
  rw [leading, Nat.one_shiftLeft, ← Nat.pow_succ', ← Nat.log2_lt nonzero, Nat.lt_succ_iff]

/-- An exact magnitude keeps the significand of a word. -/
theorem parts_of_exact {format : BinaryFormat} {magnitude kept : Nat}
    (exact : magnitude = kept <<< format.lastExponent magnitude) :
    format.Parts (format.lastExponent magnitude - format.lowest) kept := by
  have positive := format.leading_pos
  by_cases zero : kept = 0
  · subst zero
    have none : magnitude = 0 := by simpa using exact
    subst none
    exact ⟨by omega, .inr (by simp [lastExponent])⟩
  · have size := log2_shiftLeft zero (format.lastExponent magnitude)
    rw [← exact] at size
    refine ⟨(lt_two_leading_iff zero).mpr ?_, ?_⟩
    · simp only [lastExponent] at size
      omega
    · rw [leading_le_iff zero]
      simp only [lastExponent] at size ⊢
      omega

theorem magnitude_of_parts {format : BinaryFormat} {steps significand : Nat}
    (parts : format.Parts steps significand) :
    format.magnitude (steps * format.leading + significand) =
      significand <<< (format.lowest + steps) := by
  have positive := format.leading_pos
  rcases parts with ⟨fits, normal⟩
  by_cases full : format.leading ≤ significand
  · rcases Nat.exists_eq_add_of_le full with ⟨fraction, rfl⟩
    have small : fraction < format.leading := by omega
    have shape : steps * format.leading + (format.leading + fraction) =
        fraction + format.leading * (steps + 1) := by
      rw [Nat.mul_succ, Nat.mul_comm steps]
      omega
    simp [magnitude, shape, Nat.add_mul_div_left _ _ positive, Nat.div_eq_of_lt small,
      Nat.mod_eq_of_lt small]
  · have none : steps = 0 := by omega
    have small : significand < format.leading := by omega
    subst none
    simp [magnitude, Nat.div_eq_of_lt small, Nat.mod_eq_of_lt small]

theorem lastExponent_of_parts {format : BinaryFormat} {steps significand : Nat}
    (parts : format.Parts steps significand) :
    format.lastExponent (significand <<< (format.lowest + steps)) = format.lowest + steps := by
  have positive := format.leading_pos
  rcases parts with ⟨fits, normal⟩
  by_cases zero : significand = 0
  · have none : steps = 0 := by omega
    simp [lastExponent, zero, none]
  · rw [lt_two_leading_iff zero] at fits
    rw [leading_le_iff zero] at normal
    rw [lastExponent, log2_shiftLeft zero]
    omega

theorem exists_parts (format : BinaryFormat) (word : Nat) :
    ∃ steps significand, word = steps * format.leading + significand ∧
      format.Parts steps significand := by
  have small := Nat.mod_lt word format.leading_pos
  have divided := Nat.div_add_mod' word format.leading
  match field : word / format.leading with
  | 0 =>
      rw [field] at divided
      exact ⟨0, word, by omega, by omega, .inr rfl⟩
  | steps + 1 =>
      rw [field, Nat.succ_mul] at divided
      exact ⟨steps, format.leading + word % format.leading, by omega, by omega,
        .inl (by omega)⟩

theorem round_magnitude {format : BinaryFormat} {word : Nat} (finite : word < format.infinity) :
    format.round (format.magnitude word) = word := by
  rcases format.exists_parts word with ⟨steps, significand, rfl, parts⟩
  rw [magnitude_of_parts parts, round, lastExponent_of_parts parts]
  simp only [roundHalfEven_shiftLeft, Nat.add_sub_cancel_left]
  exact Nat.min_eq_right (by omega)

/-- The word of a magnitude that loses no bit. -/
theorem round_of_exact {format : BinaryFormat} {magnitude kept : Nat}
    (exact : magnitude = kept <<< format.lastExponent magnitude) :
    format.round magnitude = min format.infinity
      ((format.lastExponent magnitude - format.lowest) * format.leading + kept) := by
  have rounded : roundHalfEven magnitude (format.lastExponent magnitude) = kept := by
    conv => lhs; arg 1; rw [exact]
    exact roundHalfEven_shiftLeft _ _
  simp only [round, rounded]

theorem magnitude_round {format : BinaryFormat} {magnitude kept : Nat}
    (exact : magnitude = kept <<< format.lastExponent magnitude)
    (finite : format.round magnitude < format.infinity) :
    format.magnitude (format.round magnitude) = magnitude := by
  have least : format.lowest ≤ format.lastExponent magnitude := Nat.le_max_right _ _
  rw [round_of_exact exact] at finite ⊢
  rw [Nat.min_eq_right (by omega), magnitude_of_parts (parts_of_exact exact),
    Nat.add_sub_cancel' least, ← exact]

end BinaryFormat

/-! ## Words with a sign -/

structure Double where
  bits : UInt64
deriving DecidableEq

structure Single where
  bits : UInt32
deriving DecidableEq

namespace Double

def negative (number : Double) : Bool := BinaryFormat.double.sign ≤ number.bits.toNat

def word (number : Double) : Nat := number.bits.toNat % BinaryFormat.double.sign

def ofWord (negative : Bool) (word : Nat) : Double :=
  ⟨UInt64.ofNat (word + if negative then BinaryFormat.double.sign else 0)⟩

@[simp] theorem negative_ofWord (negative : Bool) {word : Nat}
    (small : word < BinaryFormat.double.sign) : (ofWord negative word).negative = negative := by
  simp only [BinaryFormat.sign, BinaryFormat.double] at small
  cases negative <;>
    simp [Double.negative, ofWord, BinaryFormat.sign, BinaryFormat.double, UInt64.toNat_ofNat'] <;>
    omega

@[simp] theorem word_ofWord (negative : Bool) {word : Nat}
    (small : word < BinaryFormat.double.sign) : (ofWord negative word).word = word := by
  simp only [BinaryFormat.sign, BinaryFormat.double] at small
  cases negative <;>
    simp [Double.word, ofWord, BinaryFormat.sign, BinaryFormat.double, UInt64.toNat_ofNat'] <;>
    omega

def zero : Double := ⟨0⟩

instance : Inhabited Double := ⟨zero⟩

/-- The nearest double of an integer. -/
def ofInt (value : Int) : Double :=
  ofWord (value < 0) (BinaryFormat.double.round (value.natAbs <<< 1074))

end Double

namespace Single

def negative (number : Single) : Bool := BinaryFormat.single.sign ≤ number.bits.toNat

def word (number : Single) : Nat := number.bits.toNat % BinaryFormat.single.sign

def ofWord (negative : Bool) (word : Nat) : Single :=
  ⟨UInt32.ofNat (word + if negative then BinaryFormat.single.sign else 0)⟩

theorem word_lt (number : Single) : number.word < BinaryFormat.single.sign :=
  Nat.mod_lt _ (by decide)

@[simp] theorem ofWord_word (number : Single) : ofWord number.negative number.word = number := by
  rcases number with ⟨bits⟩
  have range := bits.toNat_lt
  simp only [ofWord, negative, word, BinaryFormat.sign, BinaryFormat.single, Single.mk.injEq,
    ← UInt32.toNat_inj, UInt32.toNat_ofNat', Nat.reduceAdd, Nat.reduceShiftLeft]
  by_cases high : 2147483648 ≤ bits.toNat
  · simp only [high, decide_true, if_true]
    omega
  · simp only [high, decide_false, Bool.false_eq_true, if_false]
    omega

instance : Inhabited Single := ⟨⟨0⟩⟩

/-- The word of the same number among the doubles; words past infinity keep their payload. -/
def widenedWord (number : Single) : Nat :=
  if number.word < BinaryFormat.single.infinity then
    BinaryFormat.double.round (BinaryFormat.single.magnitude number.word)
  else
    BinaryFormat.double.infinity + (number.word - BinaryFormat.single.infinity) <<< 29

/-- Every single is a double. -/
def widen (number : Single) : Double := .ofWord number.negative number.widenedWord

end Single

/-- A payload loses its last bits. If no other bit is set, it gets the leading one, since
without a payload the word would be that of infinity. -/
def Double.narrowedPayload (payload : Nat) : Nat :=
  if payload = 0 ∨ payload >>> 29 ≠ 0 then payload >>> 29 else BinaryFormat.single.quiet

/-- The word of the nearest single. -/
def Double.narrowedWord (number : Double) : Nat :=
  if number.word < BinaryFormat.double.infinity then
    BinaryFormat.single.round (BinaryFormat.double.magnitude number.word)
  else
    BinaryFormat.single.infinity + narrowedPayload (number.word - BinaryFormat.double.infinity)

/-- What is not a number among the doubles is not one among the singles, and nothing else is. -/
theorem Double.infinity_lt_narrowedWord_iff (number : Double) :
    BinaryFormat.single.infinity < number.narrowedWord ↔
      BinaryFormat.double.infinity < number.word := by
  have quiet : BinaryFormat.single.quiet ≠ 0 := by decide
  simp only [narrowedWord, narrowedPayload]
  by_cases finite : number.word < BinaryFormat.double.infinity
  · have bound : BinaryFormat.single.round (BinaryFormat.double.magnitude number.word) ≤
        BinaryFormat.single.infinity := Nat.min_le_left _ _
    rw [if_pos finite]
    omega
  · rw [if_neg finite]
    split
    · rename_i kept
      rcases kept with none | kept
      · simp only [none, Nat.zero_shiftRight]
        omega
      · have filled : number.word - BinaryFormat.double.infinity ≠ 0 := by
          intro none
          rw [none, Nat.zero_shiftRight] at kept
          exact kept rfl
        omega
    · omega

/-- The nearest single of a double. -/
def Double.narrow (number : Double) : Single := .ofWord number.negative number.narrowedWord

namespace Single

/-- The last bit of an infinite double would lie above all bits of the singles. -/
theorem round_lt_of_exact {magnitude kept : Nat}
    (exact : magnitude = kept <<< BinaryFormat.double.lastExponent magnitude)
    (low : BinaryFormat.double.lastExponent magnitude ≤ 1149) :
    BinaryFormat.double.round magnitude < BinaryFormat.double.infinity := by
  have fits := (BinaryFormat.parts_of_exact exact).fits
  rw [BinaryFormat.round_of_exact exact]
  clear exact
  generalize BinaryFormat.double.lastExponent magnitude = exponent at low ⊢
  simp only [BinaryFormat.double, BinaryFormat.infinity, BinaryFormat.leading,
    Nat.shiftLeft_eq] at fits ⊢
  omega

/-- A finite single loses no bit among the doubles, and is finite there. -/
theorem magnitude_fits_double {word : Nat} (finite : word < BinaryFormat.single.infinity) :
    ∃ kept, BinaryFormat.single.magnitude word =
        kept <<< BinaryFormat.double.lastExponent (BinaryFormat.single.magnitude word) ∧
      BinaryFormat.double.round (BinaryFormat.single.magnitude word) <
        BinaryFormat.double.infinity := by
  rcases BinaryFormat.single.exists_parts word with ⟨steps, significand, rfl, parts⟩
  rw [BinaryFormat.magnitude_of_parts parts]
  generalize whole : significand <<< (BinaryFormat.single.lowest + steps) = magnitude
  rcases parts with ⟨fits, normal⟩
  have last : BinaryFormat.double.lastExponent magnitude ≤ 925 + steps ∧
      BinaryFormat.double.lastExponent magnitude ≤ 1149 := by
    by_cases zero : significand = 0
    · subst zero
      simp [← whole, BinaryFormat.lastExponent, BinaryFormat.double]
    · have size := BinaryFormat.log2_shiftLeft zero (BinaryFormat.single.lowest + steps)
      rw [BinaryFormat.lt_two_leading_iff zero] at fits
      rw [whole] at size
      simp only [BinaryFormat.single, BinaryFormat.infinity, BinaryFormat.leading,
        Nat.reduceShiftLeft, Nat.reduceSub] at finite fits normal size
      simp only [BinaryFormat.lastExponent, BinaryFormat.double]
      omega
  have exact : magnitude =
      significand <<< (925 + steps - BinaryFormat.double.lastExponent magnitude) <<<
        BinaryFormat.double.lastExponent magnitude := by
    rw [← Nat.shiftLeft_add, Nat.sub_add_cancel last.1]
    exact whole.symm
  exact ⟨_, exact, round_lt_of_exact exact last.2⟩

theorem widenedWord_lt (number : Single) : number.widenedWord < BinaryFormat.double.sign := by
  have small := number.word_lt
  simp only [widenedWord]
  split
  · rename_i finite
    rcases magnitude_fits_double finite with ⟨_, _, bound⟩
    exact Nat.lt_trans bound
      (by simp [BinaryFormat.infinity, BinaryFormat.sign, BinaryFormat.double])
  · simp only [BinaryFormat.double, BinaryFormat.single, BinaryFormat.infinity,
      BinaryFormat.sign, Nat.shiftLeft_eq] at small ⊢
    omega

/-- Taking a single to a double and back changes nothing, not even a payload. -/
@[simp] theorem narrow_widen (number : Single) : number.widen.narrow = number := by
  have small := number.widenedWord_lt
  have sign : number.widen.negative = number.negative := Double.negative_ofWord _ small
  have word : number.widen.word = number.widenedWord := Double.word_ofWord _ small
  have back : number.widen.narrowedWord = number.word := by
    simp only [Double.narrowedWord, word]
    by_cases finite : number.word < BinaryFormat.single.infinity
    · rcases magnitude_fits_double finite with ⟨kept, exact, bound⟩
      rw [widenedWord, if_pos finite, if_pos bound, BinaryFormat.magnitude_round exact bound,
        BinaryFormat.round_magnitude finite]
    · have kept : Double.narrowedPayload
          ((number.word - BinaryFormat.single.infinity) <<< 29) =
          number.word - BinaryFormat.single.infinity := by
        simp only [Double.narrowedPayload, Nat.shiftLeft_shiftRight]
        split
        · rfl
        · omega
      rw [widenedWord, if_neg finite, if_neg (by omega), Nat.add_sub_cancel_left, kept]
      omega
  rw [Double.narrow, sign, back, ofWord_word]

end Single

end CollectionSchema
