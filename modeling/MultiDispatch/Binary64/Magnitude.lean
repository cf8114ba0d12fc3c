set_option autoImplicit false
set_option relaxedAutoImplicit false

/-!
# Magnitudes of binary floating-point numbers

The absolute value of a 64-bit float is determined by the lower 63 bits of its pattern, and in
this order: a larger pattern is a larger value, up to infinity.  Every finite value is a whole
number of units of `2 ^ (-1074)`, so questions about values are questions about natural numbers.

A nonnegative real number takes part through its comparison with every whole number of half
units, which is all that rounding needs: the value halfway between two neighbouring floats is a
whole number of half units.

## Main definitions

* `MultiDispatch.Binary64.pattern`, `isNegative`, `ofParts` — a float as a sign and a pattern.
* `MultiDispatch.Binary64.magnitude` — the value of a pattern, in units.
* `MultiDispatch.Binary64.reaches` — whether a real number is not below the range of reals that
  round to a pattern.
* `MultiDispatch.Binary64.round` — the pattern that a real number rounds to.

## Main results

* `MultiDispatch.Binary64.magnitude_lt_succ` — patterns are ordered as their values.
* `MultiDispatch.Binary64.round_spec` — a real reaches the pattern that it rounds to and none beyond
  it.
-/

namespace MultiDispatch.Binary64

-- Powers are those of the core library, whatever else is imported.
attribute [local instance (2000)] instPowNat

/-! ## Patterns -/

/-- The pattern of infinity; smaller patterns are finite, larger ones are not numbers. -/
def infinityPattern : Nat := 0x7FF0000000000000

/-- The lower 63 bits of a float, which determine its absolute value. -/
def pattern (x : Float) : Nat := x.toBits.toNat % 2 ^ (63 : Nat)

/-- Whether the sign bit of a float is set. -/
def isNegative (x : Float) : Bool := 2 ^ (63 : Nat) ≤ x.toBits.toNat

/-- The float of a sign and a pattern. -/
def ofParts (negative : Bool) (bits : Nat) : Float :=
  Float.ofBits (UInt64.ofNat (bits + if negative then 2 ^ (63 : Nat) else 0))

/-- Whether a float is not a number. -/
def isNotANumber (x : Float) : Bool := infinityPattern < pattern x

/-- Whether a float is one of the two infinities. -/
def isInfinite (x : Float) : Bool := pattern x == infinityPattern

/-- Whether a float is one of the two zeros. -/
def isZero (x : Float) : Bool := pattern x == 0

/-- The float that is not a number. -/
def notANumber : Float := ofParts false 0x7FF8000000000000

/-! ## Values -/

/-- The value of a pattern in units of `2 ^ (-1074)`.  The pattern of infinity counts as the
value `2 ^ 1024` that would follow the largest finite one. -/
def magnitude (bits : Nat) : Nat :=
  if bits / 2 ^ (52 : Nat) = 0 then bits % 2 ^ (52 : Nat)
  else (2 ^ (52 : Nat) + bits % 2 ^ (52 : Nat)) * 2 ^ (bits / 2 ^ (52 : Nat) - 1)

/-- Below a positive pattern, in half units: the middle between its value and the one before. -/
def lowerBoundary (bits : Nat) : Nat := magnitude (bits - 1) + magnitude bits

/-- Whether a real number, given by its comparison with half units, is not below the range that
rounds to the pattern.  A real in the middle of two patterns goes to the even one. -/
def reaches (against : Nat → Ordering) (bits : Nat) : Bool :=
  match against (lowerBoundary bits) with
  | .gt => true
  | .eq => bits % 2 == 0
  | .lt => false

/-- Whether a real number rounds to the positive pattern. -/
def roundsTo (against : Nat → Ordering) (bits : Nat) : Bool :=
  reaches against bits && !reaches against (bits + 1)

/-- The largest pattern that a real reaches among those that agree with `base` above the lowest
`places` bits, found one bit at a time. -/
def roundBelow (against : Nat → Ordering) : Nat → Nat → Nat
  | 0, base => base
  | places + 1, base =>
    let next := base + 2 ^ places
    if next ≤ infinityPattern && reaches against next then roundBelow against places next
    else roundBelow against places base

/-- The pattern that a nonnegative real number rounds to, a tie going to the even pattern and
what lies beyond the largest finite range to infinity. -/
def round (against : Nat → Ordering) : Nat := roundBelow against 63 0

/-- The pattern nearest to a whole number of units. -/
def ofMagnitude (units : Nat) : Nat := round fun half => compare (2 * units) half

/-! ## Order -/

/-- Quotient and remainder of a number written with them. -/
theorem div_mod_of_lt {e f n : Nat} (h : f < n) :
    (e * n + f) / n = e ∧ (e * n + f) % n = f := by
  constructor
  · rw [Nat.mul_comm, Nat.mul_add_div (by omega), Nat.div_eq_of_lt h, Nat.add_zero]
  · rw [Nat.mul_comm, Nat.mul_add_mod, Nat.mod_eq_of_lt h]

/-- The value of a pattern written by its exponent and fraction. -/
theorem magnitude_of_parts (e : Nat) {f : Nat} (h : f < 2 ^ (52 : Nat)) :
    magnitude (e * 2 ^ (52 : Nat) + f) =
      if e = 0 then f else (2 ^ (52 : Nat) + f) * 2 ^ (e - 1) := by
  rw [magnitude, (div_mod_of_lt h).1, (div_mod_of_lt h).2]

/-- The value grows from each pattern to the next. -/
theorem magnitude_lt_succ (bits : Nat) : magnitude bits < magnitude (bits + 1) := by
  obtain ⟨e, f, small, rfl⟩ : ∃ e f, f < 2 ^ (52 : Nat) ∧ bits = e * 2 ^ (52 : Nat) + f :=
    ⟨bits / 2 ^ (52 : Nat), bits % 2 ^ (52 : Nat), Nat.mod_lt _ (by decide), by
      rw [Nat.mul_comm]; exact (Nat.div_add_mod ..).symm⟩
  rw [magnitude_of_parts e small]
  rcases Nat.lt_or_eq_of_le (Nat.succ_le_of_lt small) with less | last
  · rw [Nat.add_assoc, magnitude_of_parts e less]
    split
    · exact Nat.lt_succ_self f
    · exact Nat.mul_lt_mul_of_pos_right (Nat.add_lt_add_left (Nat.lt_succ_self f) _)
        (Nat.two_pow_pos _)
  · have next : e * 2 ^ (52 : Nat) + f + 1 = (e + 1) * 2 ^ (52 : Nat) + 0 := by
      rw [Nat.add_assoc, ← Nat.succ_eq_add_one f, last, Nat.succ_mul, Nat.add_zero]
    rw [next, magnitude_of_parts (e + 1) (Nat.two_pow_pos 52), if_neg (Nat.succ_ne_zero e),
      Nat.add_zero, Nat.add_sub_cancel]
    split
    · next h => rw [h, Nat.pow_zero, Nat.mul_one]; exact small
    · next h =>
      obtain ⟨k, rfl⟩ := Nat.exists_eq_succ_of_ne_zero h
      rw [Nat.succ_eq_add_one, Nat.add_sub_cancel, Nat.pow_succ 2 k, Nat.mul_comm (2 ^ k) 2,
        ← Nat.mul_assoc]
      refine Nat.mul_lt_mul_of_pos_right ?_ (Nat.two_pow_pos _)
      rw [Nat.mul_two]
      exact Nat.add_lt_add_left small _

/-- Patterns are ordered as their values. -/
theorem magnitude_lt {a b : Nat} (h : a < b) : magnitude a < magnitude b := by
  induction h with
  | refl => exact magnitude_lt_succ a
  | step _ ih => exact Nat.lt_trans ih (magnitude_lt_succ _)

/-- Boundaries grow with the positive patterns that they lie below. -/
theorem lowerBoundary_lt {a b : Nat} (positive : 0 < a) (h : a < b) :
    lowerBoundary a < lowerBoundary b := by
  have low : magnitude (a - 1) < magnitude (b - 1) := magnitude_lt (by omega)
  have high : magnitude a < magnitude b := magnitude_lt h
  simp only [lowerBoundary]
  omega

/-! ## Rounding -/

/-- What a comparison with half units has to satisfy to be that of a real number: it only
decreases as the half units grow, and equals at most one of them. -/
def IsReal (against : Nat → Ordering) : Prop :=
  ∀ a b, a < b → against b ≠ .lt → against a = .gt

/-- A real that reaches a pattern reaches every smaller positive one. -/
theorem reaches_of_le {against : Nat → Ordering} (real : IsReal against) {a b : Nat}
    (positive : 0 < a) (h : a ≤ b) (hb : reaches against b = true) :
    reaches against a = true := by
  rcases Nat.lt_or_eq_of_le h with less | rfl
  · have notLess : against (lowerBoundary b) ≠ .lt := by
      intro below
      simp [reaches, below] at hb
    simp [reaches, real _ _ (lowerBoundary_lt positive less) notLess]
  · exact hb

/-- The bit by bit search ends at a pattern that is reached with none reached beyond it, if it
starts at one that is reached and nothing from the end of the part searched on is. -/
theorem roundBelow_spec {against : Nat → Ordering} (real : IsReal against) :
    ∀ places base, base ≤ infinityPattern → (0 < base → reaches against base = true) →
      (∀ bits, base + 2 ^ places ≤ bits → bits ≤ infinityPattern →
        reaches against bits = false) →
      roundBelow against places base ≤ infinityPattern ∧
        (0 < roundBelow against places base →
          reaches against (roundBelow against places base) = true) ∧
        (roundBelow against places base < infinityPattern →
          reaches against (roundBelow against places base + 1) = false) := by
  intro places
  induction places with
  | zero =>
    intro base inRange reached beyond
    exact ⟨inRange, reached, beyond (base + 1) (Nat.le_refl _)⟩
  | succ places ih =>
    intro base inRange reached beyond
    have size : 0 < 2 ^ places := Nat.two_pow_pos _
    rw [Nat.pow_succ] at beyond
    simp only [roundBelow]
    split
    · next set =>
      simp only [Bool.and_eq_true, decide_eq_true_eq] at set
      exact ih _ set.1 (fun _ => set.2) fun bits high => beyond bits (by omega)
    · next clear =>
      simp only [Bool.and_eq_true, decide_eq_true_eq, not_and, Bool.not_eq_true] at clear
      refine ih base inRange reached fun bits high bound => ?_
      -- Who reaches a pattern beyond the next bit reaches the one where it is set.
      cases there : reaches against bits with
      | false => rfl
      | true =>
        have next := reaches_of_le real (by omega) high there
        rw [clear (by omega)] at next
        cases next

/-- A real number rounds to a pattern that it reaches and reaches none beyond it. -/
theorem round_spec {against : Nat → Ordering} (real : IsReal against) :
    round against ≤ infinityPattern ∧ (0 < round against → reaches against (round against) = true) ∧
      (round against < infinityPattern → reaches against (round against + 1) = false) := by
  refine roundBelow_spec real 63 0 (Nat.zero_le _) (fun positive => absurd positive (by omega)) ?_
  intro bits high inRange
  rw [infinityPattern] at inRange
  omega

end MultiDispatch.Binary64
