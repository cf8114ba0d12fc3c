import Mathlib
import MultiDispatch.Binary64.Magnitude

set_option autoImplicit false
set_option relaxedAutoImplicit false

/-!
# Floats and their parts

A float is its sign and its pattern: it is put together from them again, and what is put together
from a sign and the pattern of a number has these parts.  The bits of a float are only handed out
through a form that keeps sign, exponent and fraction apart, so the heart of the matter is that
nothing is lost on the way into that form and back.

## Main definitions

* `MultiDispatch.Binary64.encoding` — the bits of a float, as many as its format has.
* `MultiDispatch.Binary64.IsFinite` — being neither infinite nor no number.

## Main results

* `MultiDispatch.Binary64.pack_unpack` — the bits of a float survive being taken apart.
* `MultiDispatch.Binary64.ofParts_parts` — a float is put together from its sign and its pattern.
* `MultiDispatch.Binary64.pattern_ofParts`, `isNegative_ofParts` — the parts of a float that is put
  together.
* `MultiDispatch.Binary64.pattern_neg`, `isNegative_neg` — the parts of the negation of a number.
* `MultiDispatch.Binary64.beq_self`, `eq_or_zeros_of_beq` — a number is numerically equal to itself,
  and to nothing else but the two zeros to each other.
-/

namespace MultiDispatch.Binary64

open Float.Model (Format)
open Float.Model.UnpackedFloat

-- Powers are those of the core library, whatever else is imported.
attribute [local instance (2000)] instPowNat

/-! ## Bits -/

/-- The sign bit survives being taken for a sign. -/
lemma toBitVec_ofBitVec (bit : BitVec 1) : (Sign.ofBitVec bit).toBitVec = bit := by
  revert bit
  decide

/-- Bits are put together from sign, exponent and fraction. -/
lemma packComponents_unpack (bits : BitVec Format.binary64.numBits) :
    packComponents .binary64 (Sign.ofBitVec (unpackSign bits)) (unpackExponent bits)
      (unpackMantissa bits) = bits := by
  simp only [packComponents, toBitVec_ofBitVec, unpackSign, unpackExponent, unpackMantissa,
    BitVec.extractLsb]
  ext i inside
  grind

/-- The leading one of a normal number stands above its fraction. -/
lemma toNat_one_append (fraction : BitVec 52) :
    (1#1 ++ fraction).toNat = 2 ^ (52 : Nat) + fraction.toNat := by
  rw [BitVec.toNat_append, ← Nat.shiftLeft_add_eq_or_of_lt fraction.isLt]
  rfl

/-- A subnormal number is put together from its fraction, which has no leading one. -/
lemma pack_subnormal (sign : Sign) {fraction : BitVec 52} {exponent : Int}
    (smallest : exponent = -1074) (positive : 0 < fraction.toNat) :
    pack .binary64 (.finite sign fraction.toNat exponent positive) =
      packComponents .binary64 sign 0#11 fraction := by
  have noLeadingOne : fraction.toNat.log2 + 1 ≠ Format.binary64.mantissaBits :=
    Nat.ne_of_lt (Nat.succ_lt_succ ((Nat.log2_lt (Nat.ne_of_gt positive)).2 fraction.isLt))
  have biased : (exponent + Format.binary64.exponentBias +
      Format.binary64.mantissaBitsWithoutImplicit).toNat = 1 := by
    rw [smallest]
    rfl
  rw [pack]
  simp only [biased]
  rw [if_neg (by decide), if_neg noLeadingOne, BitVec.ofNat_toNat, BitVec.setWidth_eq]

/-- A normal number is put together from its exponent and its fraction, whose leading one is
known. -/
lemma pack_normal (sign : Sign) {exponent : BitVec 11} {fraction : BitVec 52}
    (finite : exponent ≠ -1#11) (positive : 0 < (1#1 ++ fraction).toNat) :
    pack .binary64 (.finite sign (1#1 ++ fraction).toNat
        (exponent.toNat - (Format.binary64.exponentBias +
          Format.binary64.mantissaBitsWithoutImplicit)) positive) =
      packComponents .binary64 sign exponent fraction := by
  have small : fraction.toNat < 2 ^ (52 : Nat) := fraction.isLt
  have leadingOne : (1#1 ++ fraction).toNat.log2 + 1 = Format.binary64.mantissaBits := by
    rw [toNat_one_append]
    exact congrArg (· + 1) ((Nat.log2_eq_iff (by omega)).2 ⟨by omega, by omega⟩)
  have biased : (exponent.toNat - (Format.binary64.exponentBias +
      Format.binary64.mantissaBitsWithoutImplicit : Int) + Format.binary64.exponentBias +
      Format.binary64.mantissaBitsWithoutImplicit).toNat = exponent.toNat := by
    omega
  have inRange : ¬2 ^ (11 : Nat) ≤ exponent.toNat + 1 := by
    have bound : exponent.toNat < 2 ^ (11 : Nat) := exponent.isLt
    have notLast : exponent.toNat ≠ 2047 := fun h => finite (BitVec.eq_of_toNat_eq h)
    omega
  have withoutOne : BitVec.ofNat 52 (1#1 ++ fraction).toNat = fraction := by
    apply BitVec.eq_of_toNat_eq
    rw [toNat_one_append, BitVec.toNat_ofNat, Nat.add_mod_left]
    exact Nat.mod_eq_of_lt small
  rw [pack]
  simp only [biased]
  rw [if_neg inRange, if_pos leadingOne, BitVec.ofNat_toNat, BitVec.setWidth_eq, withoutOne]

/-- The bits of a float survive being taken apart, the only ones that do not being those of a
value that is not a number other than the chosen one.

**Proof sketch.**  A subnormal number has a fraction below `2 ^ 52`, and a normal one has its
leading one at the bit `52`; by this bit the two are told apart when they are put together, and
the exponent is the one that was taken off. -/
theorem pack_unpack {bits : BitVec Format.binary64.numBits} (valid : Format.binary64.Valid bits) :
    pack .binary64 (unpack .binary64 bits) = bits := by
  have whole := packComponents_unpack bits
  rw [unpack]
  split
  · next top =>
    split
    · next infinite => rwa [top, infinite] at whole
    · next notNumber => exact (valid.eq_packedNaN top notNumber).symm
  · next notTop =>
    split
    · next bottom =>
      split
      · next zero => rwa [bottom, zero] at whole
      · rw [bottom] at whole
        exact (pack_subnormal _ (by rw [bottom]; rfl) _).trans whole
    · exact (pack_normal _ notTop _).trans whole

/-- The exponent of a float as a number. -/
lemma toNat_unpackExponent (bits : BitVec Format.binary64.numBits) :
    (unpackExponent bits).toNat = bits.toNat / 2 ^ (52 : Nat) % 2 ^ (11 : Nat) := by
  simp only [unpackExponent, BitVec.toNat_cast, BitVec.extractLsb_toNat, Nat.shiftRight_eq_div_pow]

/-- The fraction of a float as a number. -/
lemma toNat_unpackMantissa (bits : BitVec Format.binary64.numBits) :
    (unpackMantissa bits).toNat = bits.toNat % 2 ^ (52 : Nat) := by
  simp only [unpackMantissa, BitVec.toNat_cast, BitVec.extractLsb_toNat, Nat.shiftRight_zero]

/-- The pattern of infinity has no fraction and the largest exponent, so bits up to it cannot be
those of a value that is not a number. -/
lemma fraction_eq_zero {bits : BitVec Format.binary64.numBits}
    (number : bits.toNat % 2 ^ (63 : Nat) ≤ infinityPattern)
    (top : unpackExponent bits = -1#_) : unpackMantissa bits = 0#_ := by
  have exponent := toNat_unpackExponent bits
  rw [top, show (-1#11 : BitVec 11).toNat = 2047 from rfl] at exponent
  apply BitVec.eq_of_toNat_eq
  rw [toNat_unpackMantissa, BitVec.toNat_zero]
  rw [infinityPattern] at number
  omega

/-! ## Floats -/

/-- A float is what its bits encode. -/
theorem ofBits_toBits (x : Float) : Float.ofBits x.toBits = x := by
  obtain ⟨⟨bits, valid⟩⟩ := x
  rw [Float.toBits, Float.ofBits]
  refine congrArg Float.ofModel ?_
  simp only [Float.Model.ofBits, Float.Model.pack, pack_unpack valid]

/-- The bits of a number are the bits of the float that they encode. -/
theorem toBits_ofBits {bits : UInt64} (number : bits.toNat % 2 ^ (63 : Nat) ≤ infinityPattern) :
    (Float.ofBits bits).toBits = bits := by
  have valid : Format.binary64.Valid bits.toBitVec :=
    ⟨fun top notZero => absurd (fraction_eq_zero number top) notZero⟩
  simp only [Float.toBits, Float.ofBits, Float.Model.ofBits, Float.Model.pack, pack_unpack valid]

/-- The bits of a float that is put together from a sign and the pattern of a number. -/
lemma toNat_toBits_ofParts (negative : Bool) {bits : Nat} (number : bits ≤ infinityPattern) :
    (ofParts negative bits).toBits.toNat = bits + if negative then 2 ^ (63 : Nat) else 0 := by
  have encoded : (UInt64.ofNat (bits + if negative then 2 ^ (63 : Nat) else 0)).toNat =
      bits + if negative then 2 ^ (63 : Nat) else 0 := by
    rw [UInt64.toNat_ofNat', Nat.mod_eq_of_lt]
    rw [infinityPattern] at number
    split <;> omega
  rw [ofParts, toBits_ofBits, encoded]
  rw [encoded]
  rw [infinityPattern] at number ⊢
  split <;> omega

/-- The pattern of a number that is put together is the one it is put together from. -/
@[simp] theorem pattern_ofParts (negative : Bool) {bits : Nat} (number : bits ≤ infinityPattern) :
    pattern (ofParts negative bits) = bits := by
  rw [pattern, toNat_toBits_ofParts negative number]
  rw [infinityPattern] at number
  split <;> omega

/-- The sign of a number that is put together is the one it is put together from. -/
@[simp] theorem isNegative_ofParts (negative : Bool) {bits : Nat}
    (number : bits ≤ infinityPattern) : isNegative (ofParts negative bits) = negative := by
  rw [isNegative, toNat_toBits_ofParts negative number]
  rw [infinityPattern] at number
  cases negative
  · simp only [Bool.false_eq_true, if_false, decide_eq_false_iff_not]
    omega
  · simp only [if_true, decide_eq_true_eq]
    omega

/-- A float is put together from its sign and its pattern. -/
theorem ofParts_parts (x : Float) : ofParts (isNegative x) (pattern x) = x := by
  have bound : x.toBits.toNat < 2 ^ (64 : Nat) := x.toBits.toNat_lt
  have bits : pattern x + (if isNegative x then 2 ^ (63 : Nat) else 0) = x.toBits.toNat := by
    simp only [pattern, isNegative, decide_eq_true_eq]
    split <;> omega
  rw [ofParts, bits, UInt64.ofNat_toNat, ofBits_toBits]

/-! ## Negation -/

/-- The bits of a float, as many as its format has. -/
def encoding (x : Float) : BitVec Format.binary64.numBits := x.toBits.toBitVec

/-- A float is put together again from what its bits encode. -/
lemma ofModel_pack_unpack (x : Float) : Float.ofModel (.pack (unpack .binary64 (encoding x))) = x :=
  ofBits_toBits x

/-- The sign bit of a float is read as its sign. -/
lemma ofBitVec_unpackSign (x : Float) :
    Sign.ofBitVec (unpackSign (encoding x)) = if isNegative x then .negative else .positive := by
  have bound : (encoding x).toNat < 2 ^ (64 : Nat) := (encoding x).isLt
  have bit : (unpackSign (encoding x)).toNat = (encoding x).toNat / 2 ^ (63 : Nat) % 2 := by
    simp only [unpackSign, BitVec.toNat_cast, BitVec.extractLsb_toNat, Nat.shiftRight_eq_div_pow]
  have high : isNegative x = decide (2 ^ (63 : Nat) ≤ (encoding x).toNat) := rfl
  have zero : unpackSign (encoding x) = 0#1 ↔ ¬isNegative x = true := by
    rw [← BitVec.toNat_inj, bit, BitVec.toNat_zero, high, decide_eq_true_iff]
    omega
  rw [Sign.ofBitVec, if_congr zero rfl rfl, ite_not]

/-- Bits that differ in the sign only encode values that differ in the sign only. -/
lemma unpack_of_opposite {bits opposite : BitVec Format.binary64.numBits}
    (exponent : unpackExponent opposite = unpackExponent bits)
    (fraction : unpackMantissa opposite = unpackMantissa bits)
    (sign : Sign.ofBitVec (unpackSign opposite) = -Sign.ofBitVec (unpackSign bits)) :
    unpack .binary64 opposite = (unpack .binary64 bits).neg := by
  simp only [unpack, exponent, fraction, sign]
  split_ifs <;> rfl

/-- The float with the same pattern and the opposite sign is the negation. -/
theorem neg_eq_of_opposite {x y : Float} (same : pattern y = pattern x)
    (opposite : isNegative y = !isNegative x) : -x = y := by
  have low : (encoding y).toNat % 2 ^ (63 : Nat) = (encoding x).toNat % 2 ^ (63 : Nat) := same
  have exponent : unpackExponent (encoding y) = unpackExponent (encoding x) := by
    apply BitVec.eq_of_toNat_eq
    rw [toNat_unpackExponent, toNat_unpackExponent]
    omega
  have fraction : unpackMantissa (encoding y) = unpackMantissa (encoding x) := by
    apply BitVec.eq_of_toNat_eq
    rw [toNat_unpackMantissa, toNat_unpackMantissa]
    omega
  have sign : Sign.ofBitVec (unpackSign (encoding y)) =
      -Sign.ofBitVec (unpackSign (encoding x)) := by
    rw [ofBitVec_unpackSign, ofBitVec_unpackSign, opposite]
    cases isNegative x <;> rfl
  calc -x = Float.ofModel (.pack (unpack .binary64 (encoding x)).neg) := rfl
    _ = Float.ofModel (.pack (unpack .binary64 (encoding y))) := by
      rw [unpack_of_opposite exponent fraction sign]
    _ = y := ofModel_pack_unpack y

/-- The negation of a number has the opposite sign and the same pattern. -/
lemma neg_eq_ofParts {x : Float} (number : pattern x ≤ infinityPattern) :
    -x = ofParts (!isNegative x) (pattern x) :=
  neg_eq_of_opposite (pattern_ofParts _ number) (isNegative_ofParts _ number)

/-- Negation keeps the pattern of a number. -/
@[simp] theorem pattern_neg {x : Float} (number : pattern x ≤ infinityPattern) :
    pattern (-x) = pattern x := by
  rw [neg_eq_ofParts number, pattern_ofParts _ number]

/-- Negation flips the sign of a number. -/
@[simp] theorem isNegative_neg {x : Float} (number : pattern x ≤ infinityPattern) :
    isNegative (-x) = !isNegative x := by
  rw [neg_eq_ofParts number, isNegative_ofParts _ number]

/-! ## Finite floats and equality -/

/-- A float is finite if it is neither infinite nor no number. -/
def IsFinite (x : Float) : Prop := pattern x < infinityPattern
deriving Decidable

/-- The tests for other floats fail on a finite one. -/
lemma IsFinite.not_special {x : Float} (finite : IsFinite x) :
    ¬isNotANumber x = true ∧ ¬isInfinite x = true := by
  rw [isNotANumber, decide_eq_true_eq, isInfinite, beq_iff_eq]
  exact ⟨Nat.not_lt.2 (Nat.le_of_lt finite), Nat.ne_of_lt finite⟩

/-- The patterns of numbers are those up to that of infinity. -/
lemma isNotANumber_eq_false_iff {x : Float} :
    isNotANumber x = false ↔ pattern x ≤ infinityPattern := by
  rw [isNotANumber, decide_eq_false_iff_not, not_lt]

/-- A number that is not finite is infinite. -/
lemma pattern_eq_of_not_finite {x : Float} (number : isNotANumber x = false)
    (notFinite : ¬IsFinite x) : pattern x = infinityPattern :=
  le_antisymm (isNotANumber_eq_false_iff.1 number) (not_lt.1 notFinite)

/-- What is no number is told by the comparison with itself. -/
lemma compare_self {u : Float.Model.UnpackedFloat} (number : u ≠ .notANumber) :
    u.compare u = some .eq := by
  cases u with
  | notANumber => exact absurd rfl number
  | infinity sign => cases sign <;> rfl
  | zero sign => cases sign <;> rfl
  | finite sign mantissa exponent positive =>
    cases sign <;> simp [Float.Model.UnpackedFloat.compare]

/-- A number is numerically equal to itself. -/
theorem beq_self {x : Float} (number : pattern x ≤ infinityPattern) : (x == x) = true := by
  have isNumber : unpack .binary64 x.toBits.toBitVec ≠ .notANumber := by
    rw [unpack]
    split
    · next top => rw [if_pos (fraction_eq_zero number top)]; simp
    · split
      · split <;> simp
      · simp
  change ((unpack .binary64 x.toBits.toBitVec).compare (unpack .binary64 x.toBits.toBitVec) ==
    some .eq) = true
  rw [compare_self isNumber]
  rfl

/-- The two zeros are numerically equal. -/
theorem zeros_beq (x y : Float) (hx : isZero x = true) (hy : isZero y = true) :
    (x == y) = true := by
  rw [isZero, beq_iff_eq] at hx hy
  rw [← ofParts_parts x, ← ofParts_parts y, hx, hy]
  cases isNegative x <;> cases isNegative y <;> rfl

/-- Values that compare as equal are the same or both zero. -/
lemma eq_or_zeros_of_compare {u v : Float.Model.UnpackedFloat} (h : u.compare v = some .eq) :
    u = v ∨ ∃ s t, u = .zero s ∧ v = .zero t := by
  cases u with
  | notANumber => cases h
  | zero s =>
    cases v with
    | zero t => exact .inr ⟨s, t, rfl, rfl⟩
    | notANumber => cases h
    | infinity t => cases t <;> cases h
    | finite t n f positive => cases t <;> cases h
  | infinity s =>
    cases v with
    | infinity t =>
      left
      cases s <;> cases t <;> simp_all [Float.Model.UnpackedFloat.compare]
    | _ => cases s <;> cases h
  | finite s m e positive =>
    cases v with
    | finite t n f positive' =>
      left
      cases s <;> cases t <;> simp_all [Float.Model.UnpackedFloat.compare]
    | notANumber => cases s <;> cases h
    | zero t => cases s <;> cases h
    | infinity t => cases s <;> cases t <;> cases h

/-- A float whose bits encode a zero is one. -/
lemma isZero_of_unpack {x : Float} {sign : Sign}
    (h : unpack .binary64 (encoding x) = .zero sign) : isZero x = true := by
  have exponent := toNat_unpackExponent (encoding x)
  have fraction := toNat_unpackMantissa (encoding x)
  have low : pattern x = (encoding x).toNat % 2 ^ (63 : Nat) := rfl
  rw [unpack] at h
  split at h
  · split at h <;> cases h
  · split at h
    · next bottom =>
      split at h
      · next zero =>
        rw [bottom, BitVec.toNat_zero] at exponent
        rw [zero, BitVec.toNat_zero] at fraction
        rw [isZero, beq_iff_eq, low]
        omega
      · cases h
    · cases h

/-- Numerically equal floats are the same or both zero. -/
theorem eq_or_zeros_of_beq {x y : Float} (h : (x == y) = true) :
    x = y ∨ isZero x = true ∧ isZero y = true := by
  change ((unpack .binary64 (encoding x)).compare (unpack .binary64 (encoding y)) ==
    some .eq) = true at h
  rcases eq_or_zeros_of_compare (beq_iff_eq.1 h) with same | ⟨s, t, zero, zero'⟩
  · left
    rw [← ofModel_pack_unpack x, same, ofModel_pack_unpack]
  · exact .inr ⟨isZero_of_unpack zero, isZero_of_unpack zero'⟩

end MultiDispatch.Binary64
