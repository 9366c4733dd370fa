import LogRecord.Proofs.Record.PrecisionReach
import Mathlib.Algebra.Order.Floor.Semifield
import Mathlib.Data.Rat.Floor

/-! Floating-point numbers as precisions.

A pattern is made of a sign, an exponent field and a fraction field, and a finite one denotes a
rational number. The precision of such a number is its exact floor, held at the largest precision,
in all exponent ranges and at both zeros (`Scalar.precision?_eq_floor`). -/

set_option autoImplicit false
namespace LogRecord

namespace BinaryFloat

/-! ## Patterns and what they denote -/

structure Fields (layout : BinaryFloat) where
  negative : Bool
  exponent : Fin (2 ^ layout.exponentBits)
  fraction : Fin (2 ^ layout.fractionBits)

namespace Fields

variable {layout : BinaryFloat} (fields : Fields layout)

/-- The sign stands in front of the exponent, and the exponent in front of the fraction. -/
def pattern : Nat :=
  (fields.negative.toNat * 2 ^ layout.exponentBits + fields.exponent) * 2 ^ layout.fractionBits +
    fields.fraction

/-- What a finite pattern denotes. An exponent field of zero stands for the same power of two as one
of one, and leaves out the leading one in front of the fraction. -/
def value : ℚ :=
  let sign : ℚ := if fields.negative then -1 else 1
  let fraction : ℚ := fields.fraction / 2 ^ layout.fractionBits
  let bias : ℤ := 2 ^ (layout.exponentBits - 1) - 1
  if fields.exponent.val = 0 then sign * fraction * 2 ^ (1 - bias)
  else sign * (1 + fraction) * 2 ^ (fields.exponent - bias)

theorem exists_pattern {number : Nat}
    (bounded : number < 2 * 2 ^ layout.exponentBits * 2 ^ layout.fractionBits) :
    ∃ fields : Fields layout, fields.pattern = number := by
  have exponents : 0 < 2 ^ layout.exponentBits := Nat.two_pow_pos _
  have fractions : 0 < 2 ^ layout.fractionBits := Nat.two_pow_pos _
  have short : number / 2 ^ layout.fractionBits < 2 * 2 ^ layout.exponentBits :=
    (Nat.div_lt_iff_lt_mul fractions).mpr bounded
  have sign : number / 2 ^ layout.fractionBits / 2 ^ layout.exponentBits < 2 :=
    (Nat.div_lt_iff_lt_mul exponents).mpr short
  refine ⟨{
    negative := decide (number / 2 ^ layout.fractionBits / 2 ^ layout.exponentBits = 1)
    exponent := ⟨_, Nat.mod_lt (number / 2 ^ layout.fractionBits) exponents⟩
    fraction := ⟨_, Nat.mod_lt number fractions⟩ }, ?_⟩
  have signBit : (decide (number / 2 ^ layout.fractionBits / 2 ^ layout.exponentBits = 1)).toNat =
      number / 2 ^ layout.fractionBits / 2 ^ layout.exponentBits := by
    generalize number / 2 ^ layout.fractionBits / 2 ^ layout.exponentBits = bit at sign ⊢
    obtain rfl | rfl : bit = 0 ∨ bit = 1 := by omega
    · rfl
    · rfl
  simp only [pattern, signBit, Nat.div_add_mod']

theorem fraction_pattern : layout.fraction fields.pattern = fields.fraction := by
  simp only [BinaryFloat.fraction, pattern, Nat.one_shiftLeft, Nat.mul_add_mod']
  exact Nat.mod_eq_of_lt fields.fraction.isLt

theorem shiftRight_pattern :
    fields.pattern >>> layout.fractionBits =
      fields.negative.toNat * 2 ^ layout.exponentBits + fields.exponent := by
  have fractions : 0 < 2 ^ layout.fractionBits := Nat.two_pow_pos _
  rw [Nat.shiftRight_eq_div_pow, pattern, Nat.add_comm, Nat.add_mul_div_right _ _ fractions,
    Nat.div_eq_of_lt fields.fraction.isLt, Nat.zero_add]

theorem exponent_pattern : layout.exponent fields.pattern = fields.exponent := by
  rw [BinaryFloat.exponent, shiftRight_pattern, Nat.one_shiftLeft, Nat.mul_add_mod']
  exact Nat.mod_eq_of_lt fields.exponent.isLt

theorem isNegative_pattern : layout.isNegative fields.pattern = fields.negative := by
  have exponents : 0 < 2 ^ layout.exponentBits := Nat.two_pow_pos _
  rw [isNegative, ← Nat.testBit_shiftRight, shiftRight_pattern, Nat.testBit_eq_decide_div_mod_eq,
    Nat.add_comm, Nat.add_mul_div_right _ _ exponents, Nat.div_eq_of_lt fields.exponent.isLt]
  cases fields.negative <;> rfl

theorem isFinite_pattern :
    layout.isFinite fields.pattern = true ↔ fields.exponent.val + 1 ≠ 2 ^ layout.exponentBits := by
  have exponents : 0 < 2 ^ layout.exponentBits := Nat.two_pow_pos _
  rw [isFinite, exponent_pattern, Nat.one_shiftLeft, bne_iff_ne]
  omega

/-! ## The floor of a pattern -/

theorem cast_bias (layout : BinaryFloat) :
    (layout.bias : ℤ) = 2 ^ (layout.exponentBits - 1) - 1 := by
  rw [bias, Nat.one_shiftLeft, Nat.cast_pred (Nat.two_pow_pos _)]
  push_cast
  rfl

/-- The magnitude as a quotient of integers: the significand, shifted left by the exponent, over a
power of two that all patterns share. -/
theorem value_eq_div :
    fields.value =
      (if fields.negative then -1 else 1) *
        ((layout.significand fields.pattern <<< max fields.exponent.val 1 : ℕ) /
          (2 ^ (layout.bias + layout.fractionBits) : ℕ)) := by
  have two : (2 : ℚ) ≠ 0 := two_ne_zero
  simp only [value, significand, exponent_pattern, fraction_pattern, ← cast_bias,
    Nat.shiftLeft_eq, zpow_sub₀ two, zpow_one, zpow_natCast, pow_add]
  by_cases lowest : fields.exponent.val = 0
  · simp only [lowest, if_true, Nat.zero_max, pow_one]
    push_cast
    field_simp
  · have positive : max fields.exponent.val 1 = fields.exponent.val := by omega
    simp only [lowest, if_false, positive]
    push_cast
    field_simp

theorem value_eq_zero_iff : fields.value = 0 ↔ layout.significand fields.pattern = 0 := by
  have sign : (if fields.negative then -1 else 1 : ℚ) ≠ 0 := by
    cases fields.negative <;> simp
  rw [value_eq_div, mul_eq_zero, or_iff_right sign, div_eq_zero_iff, or_iff_left (by positivity),
    Nat.cast_eq_zero, Nat.shiftLeft_eq, mul_eq_zero, or_iff_left (by positivity)]

/-- A number that is not below zero is its magnitude, and so is a negative zero. -/
theorem value_eq_magnitude (notBelow : fields.negative = true → fields.value = 0) :
    fields.value =
      (layout.significand fields.pattern <<< max fields.exponent.val 1 : ℕ) /
        (2 ^ (layout.bias + layout.fractionBits) : ℕ) := by
  cases negative : fields.negative with
  | false => simpa only [negative, Bool.false_eq_true, if_false, one_mul] using fields.value_eq_div
  | true =>
    have zero := notBelow negative
    rw [zero, fields.value_eq_zero_iff.mp zero, Nat.zero_shiftLeft, Nat.cast_zero, zero_div]

theorem floorMagnitude_pattern (notBelow : fields.negative = true → fields.value = 0) :
    layout.floorMagnitude fields.pattern = ⌊fields.value⌋₊ := by
  rw [floorMagnitude, exponent_pattern, Nat.shiftRight_eq_div_pow,
    fields.value_eq_magnitude notBelow, Nat.floor_div_eq_div]

theorem floor?_pattern :
    layout.floor? fields.pattern =
      if fields.exponent.val + 1 = 2 ^ layout.exponentBits ∨
          fields.negative = true ∧ fields.value ≠ 0 then none
      else some ⌊fields.value⌋₊ := by
  have guard : (layout.isFinite fields.pattern &&
        (!layout.isNegative fields.pattern || layout.significand fields.pattern == 0)) = true ↔
      ¬ (fields.exponent.val + 1 = 2 ^ layout.exponentBits ∨
        fields.negative = true ∧ fields.value ≠ 0) := by
    rw [Bool.and_eq_true, isFinite_pattern, Bool.or_eq_true, Bool.not_eq_true', isNegative_pattern,
      beq_iff_eq, ← value_eq_zero_iff, not_or, not_and, not_not, ← Bool.not_eq_true, imp_iff_not_or]
  rw [floor?]
  split
  next counts =>
    have outside := guard.mp counts
    rw [if_neg outside, floorMagnitude_pattern]
    intro negative
    exact not_not.mp fun nonzero => outside (.inr ⟨negative, nonzero⟩)
  next fails => rw [if_pos (not_not.mp (mt guard.mpr fails))]

/-- The floor of a finite number that is not below zero, held at the largest precision, and nothing
for any other pattern. -/
structure HasPrecision (precision : Option Nat) : Prop where
  none_iff : precision = none ↔
    fields.exponent.val + 1 = 2 ^ layout.exponentBits ∨ fields.negative = true ∧ fields.value ≠ 0
  floor : ∀ limit, precision = some limit →
    0 ≤ fields.value ∧ limit = min ⌊fields.value⌋₊ (2 ^ 64 - 1)

theorem hasPrecision_floor? :
    fields.HasPrecision
      ((layout.floor? fields.pattern).map (min · Scalar.largestPrecision)) := by
  rw [floor?_pattern]
  split
  next refused => exact ⟨iff_of_true rfl refused, fun _ found => nomatch found⟩
  next counts =>
    have notBelow : fields.negative = true → fields.value = 0 :=
      fun negative => not_not.mp fun nonzero => counts (.inr ⟨negative, nonzero⟩)
    refine ⟨iff_of_false (by simp) counts, ?_⟩
    rintro limit ⟨⟩
    refine ⟨?_, rfl⟩
    rw [fields.value_eq_magnitude notBelow]
    positivity

theorem exists_hasPrecision {number : Nat}
    (bounded : number < 2 * 2 ^ layout.exponentBits * 2 ^ layout.fractionBits) :
    ∃ fields : Fields layout, fields.pattern = number ∧
      fields.HasPrecision ((layout.floor? number).map (min · Scalar.largestPrecision)) := by
  obtain ⟨fields, rfl⟩ := exists_pattern bounded
  exact ⟨fields, rfl, fields.hasPrecision_floor?⟩

end Fields
end BinaryFloat

/-! ## Integers -/

/-- The values that a number of this type can have. -/
def NumberType.Holds : NumberType → ℤ → Prop
  | signed size, value => -2 ^ (8 * size.bytes - 1) ≤ value ∧ value < 2 ^ (8 * size.bytes - 1)
  | unsigned size, value => 0 ≤ value ∧ value < 2 ^ (8 * size.bytes)
  | single, _ | double, _ => False

theorem Scalar.eq_ofInt_of_integer? {number : Scalar} {value : ℤ}
    (integer : number.integer? = some value) :
    number.type.Holds value ∧ ofInt number.type value = number := by
  rcases number with ⟨type, bits⟩
  cases type with
  | signed size =>
    obtain rfl := Option.some.inj integer
    refine ⟨⟨BitVec.le_toInt bits, BitVec.toInt_lt⟩, ?_⟩
    exact congrArg (Scalar.mk (.signed size)) BitVec.ofInt_toInt
  | unsigned size =>
    obtain rfl := Option.some.inj integer
    refine ⟨⟨Int.natCast_nonneg _, by exact_mod_cast bits.isLt⟩, ?_⟩
    refine congrArg (Scalar.mk (.unsigned size)) ?_
    rw [BitVec.ofInt_natCast, BitVec.ofNat_toNat, BitVec.setWidth_eq]
  | single | double => contradiction

/-! ## Numbers of all types -/

namespace Scalar

/-- The precision of a floating-point number is the floor of what its pattern denotes, held at the
largest precision. A number below zero and a pattern that is no finite number have none. The
precision of an integer is its value, and it has none below zero. -/
theorem precision?_eq_floor :
    (∀ bits : BitVec 64, ∃ fields : BinaryFloat.Fields .double,
      fields.pattern = bits.toNat ∧ fields.HasPrecision (precision? ⟨.double, bits⟩)) ∧
    (∀ bits : BitVec 32, ∃ fields : BinaryFloat.Fields .single,
      fields.pattern = bits.toNat ∧ fields.HasPrecision (precision? ⟨.single, bits⟩)) ∧
    ∀ number : Scalar, number.type.isInteger = true →
      ∃ value, number.type.Holds value ∧ ofInt number.type value = number ∧
        number.precision? = if 0 ≤ value then some value.toNat else none := by
  refine ⟨fun bits => BinaryFloat.Fields.exists_hasPrecision bits.isLt,
    fun bits => BinaryFloat.Fields.exists_hasPrecision bits.isLt, ?_⟩
  intro number integer
  obtain ⟨value, found⟩ := exists_integer integer
  obtain ⟨held, same⟩ := eq_ofInt_of_integer? found
  exact ⟨value, held, same, precision?_of_integer found⟩

theorem precision?_eq_floor_negative :
    let number : Scalar := .ofInt (.signed .two) (-2)
    number.type.isInteger = true ∧
      ∃ value, (NumberType.signed .two).Holds value ∧ ofInt (.signed .two) value = number ∧
        number.precision? = if 0 ≤ value then some value.toNat else none :=
  ⟨rfl, precision?_eq_floor.2.2 (.ofInt (.signed .two) (-2)) rfl⟩

-- A negative zero is zero, the largest fraction below one is dropped, and 2^64 is held.
example : precision? ⟨.double, 0x8000000000000000⟩ = some 0 ∧
    precision? ⟨.single, 0x3F7FFFFF⟩ = some 0 ∧
    precision? ⟨.double, 0x43F0000000000000⟩ = some 0xFFFFFFFFFFFFFFFF := by
  decide +kernel

end Scalar
end LogRecord
