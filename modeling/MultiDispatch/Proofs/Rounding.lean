import Mathlib.Algebra.Order.Field.Basic
import Mathlib.Algebra.Order.Field.Power
import Mathlib.Data.Rat.Cast.Order
import Mathlib.Tactic.Linarith
import Mathlib.Tactic.FieldSimp
import Mathlib.Tactic.Ring
import MultiDispatch.Decimal.Shortest

set_option autoImplicit false
set_option relaxedAutoImplicit false

/-!
# Correct rounding

A pattern is nearest to a rational number if no other pattern has a value that is closer, and is
even if another one is just as close.  The search for the pattern of a decimal number finds the
one that is nearest in this sense, and the shortest decimal of a pattern has that pattern for its
nearest one, so decimals of equal value have equal patterns and a shortest decimal leads back to
where it came from.

The bridge between the two is the middle between a pattern and the one before it: a pattern is
nearest exactly if the number has reached its own middle and not the next one.

## Main definitions

* `MultiDispatch.Binary64.value`, `MultiDispatch.Decimal.value` — the rational numbers in
  question.
* `MultiDispatch.Binary64.IsNearest` — rounding to nearest, ties to even.

## Main results

* `MultiDispatch.Binary64.isNearest_iff_reached` — being nearest in terms of middles.
* `MultiDispatch.Binary64.IsNearest.unique` — at most one pattern is nearest.
* `MultiDispatch.Decimal.isNearest_nearest` — decimals are rounded correctly.
* `MultiDispatch.Decimal.nearest_eq_of_value_eq` — only the value of a decimal matters for that.
* `MultiDispatch.Decimal.isNearest_shortest` — shortest decimals lead back.
-/

namespace MultiDispatch

-- Powers are those of the core library, whatever else is imported.
attribute [local instance (2000)] instPowNat

namespace Binary64

/-! ## Being nearest -/

/-- The value of a pattern.  The pattern of infinity counts as the value `2 ^ 1024` that would
follow the largest finite one. -/
def value (bits : ℕ) : ℚ := magnitude bits / 2 ^ 1074

/-- A pattern is nearest to a number: none is closer, and if another one is as close, then it is
the even one of the two. -/
structure IsNearest (q : ℚ) (bits : ℕ) : Prop where
  /-- It is the pattern of a number. -/
  isNumber : bits ≤ infinityPattern
  /-- No pattern of a number is closer. -/
  closest : ∀ other ≤ infinityPattern, |q - value bits| ≤ |q - value other|
  /-- In a tie it is even. -/
  even_of_tie : ∀ other ≤ infinityPattern, other ≠ bits →
    |q - value bits| = |q - value other| → Even bits

/-- A whole power as a fraction. -/
lemma cast_pow (b n : ℕ) : ((b ^ n : ℕ) : ℚ) = b ^ n := Nat.cast_pow b n

/-- The value of a pattern without a fraction that is not subnormal. -/
lemma value_of_exponent (e : ℕ) :
    value ((e + 1) * 2 ^ (52 : ℕ)) = 2 ^ (52 + e) / 2 ^ 1074 := by
  have units : magnitude ((e + 1) * 2 ^ (52 : ℕ)) = 2 ^ (52 : ℕ) * 2 ^ e := by
    rw [← Nat.add_zero ((e + 1) * 2 ^ (52 : ℕ)), magnitude_of_parts (e + 1) (Nat.two_pow_pos 52),
      if_neg (Nat.succ_ne_zero e), Nat.add_zero, Nat.add_sub_cancel]
  rw [value, units, Nat.cast_mul, cast_pow, cast_pow, Nat.cast_ofNat, pow_add]

/-- Patterns are ordered as their values. -/
lemma value_strictMono : StrictMono value := by
  intro a b less
  exact div_lt_div_of_pos_right (Nat.cast_lt.2 (magnitude_lt less)) (by positivity)

/-- The middle between the value of a positive pattern and the one before. -/
def middle (bits : ℕ) : ℚ := (value (bits - 1) + value bits) / 2

/-- A number has reached a positive pattern: it lies above its middle, or right there and the
pattern is even. -/
def Reached (q : ℚ) (bits : ℕ) : Prop := middle bits < q ∨ q = middle bits ∧ Even bits

/-- Of two values the smaller one is at most as far as the larger one if the number does not lie
above their middle. -/
lemma abs_sub_le_of_lt_iff {q a b : ℚ} (h : a < b) : |q - a| ≤ |q - b| ↔ q ≤ (a + b) / 2 := by
  rcases abs_cases (q - a) with ⟨ha, _⟩ | ⟨ha, _⟩ <;>
  rcases abs_cases (q - b) with ⟨hb, _⟩ | ⟨hb, _⟩ <;>
  rw [ha, hb] <;> constructor <;> intro _ <;> linarith

/-- Of two values the larger one is at most as far as the smaller one if the number does not lie
below their middle. -/
lemma abs_sub_le_of_gt_iff {q a b : ℚ} (h : a < b) : |q - b| ≤ |q - a| ↔ (a + b) / 2 ≤ q := by
  rcases abs_cases (q - a) with ⟨ha, _⟩ | ⟨ha, _⟩ <;>
  rcases abs_cases (q - b) with ⟨hb, _⟩ | ⟨hb, _⟩ <;>
  rw [ha, hb] <;> constructor <;> intro _ <;> linarith

/-- Middles grow with the patterns. -/
lemma middle_lt {a b : ℕ} (positive : 0 < a) (h : a < b) : middle a < middle b := by
  have low : value (a - 1) < value (b - 1) := value_strictMono (by omega)
  have high : value a < value b := value_strictMono h
  rw [middle, middle]
  linarith

/-- Who has reached a pattern has reached every smaller positive one. -/
lemma Reached.of_le {q : ℚ} {a b : ℕ} (reached : Reached q b) (positive : 0 < a) (h : a ≤ b) :
    Reached q a := by
  rcases Nat.lt_or_eq_of_le h with less | rfl
  · left
    have := middle_lt positive less
    rcases reached with above | ⟨there, _⟩ <;> linarith
  · exact reached

/-- A pattern is nearest exactly if the number has reached it and not the next one.

**Proof sketch.**  Every other pattern lies beyond one of the two neighbours, so it is as far as
the neighbour at least, and as far as the neighbour only if it is the neighbour; and of two
neighbours exactly one is even. -/
theorem isNearest_iff_reached {q : ℚ} {bits : ℕ} :
    IsNearest q bits ↔ bits ≤ infinityPattern ∧ (0 < bits → Reached q bits) ∧
      (bits < infinityPattern → ¬Reached q (bits + 1)) := by
  constructor
  · intro ⟨isNumber, closest, even_of_tie⟩
    refine ⟨isNumber, fun positive => ?_, fun finite => ?_⟩
    · have less : value (bits - 1) < value bits := value_strictMono (by omega)
      have notBelow := (abs_sub_le_of_gt_iff less).1 (closest (bits - 1) (by omega))
      rcases lt_or_eq_of_le notBelow with above | there
      · exact .inl above
      · refine .inr ⟨there.symm, even_of_tie (bits - 1) (by omega) (by omega) ?_⟩
        exact le_antisymm (closest (bits - 1) (by omega)) ((abs_sub_le_of_lt_iff less).2 there.ge)
    · have less : value bits < value (bits + 1) := value_strictMono (by omega)
      have notAbove := (abs_sub_le_of_lt_iff less).1 (closest (bits + 1) finite)
      rintro (above | ⟨there, even⟩)
      · exact absurd above (not_lt.2 notAbove)
      · have tie := le_antisymm (closest (bits + 1) finite)
          ((abs_sub_le_of_gt_iff less).2 there.ge)
        have := even_of_tie (bits + 1) finite (by omega) tie
        exact Nat.not_even_iff_odd.2 this.add_one even
  · intro ⟨isNumber, reached, notNext⟩
    -- Only one of the two neighbours lies between the pattern and another one.
    have compared : ∀ other ≤ infinityPattern, other ≠ bits →
        |q - value bits| ≤ |q - value other| ∧
          (|q - value bits| = |q - value other| → Even bits) := by
      intro other inRange different
      rcases Nat.lt_or_gt_of_ne different with less | greater
      · have values : value other < value bits := value_strictMono less
        have neighbour : value other ≤ value (bits - 1) := value_strictMono.monotone (by omega)
        have here := reached (by omega)
        rw [Reached, middle] at here
        refine ⟨(abs_sub_le_of_gt_iff values).2 ?_, fun tie => ?_⟩
        · rcases here with above | ⟨there, _⟩ <;> linarith
        · have notAbove := (abs_sub_le_of_lt_iff values).1 tie.ge
          rcases here with above | ⟨_, even⟩
          · linarith
          · exact even
      · have values : value bits < value other := value_strictMono greater
        have neighbour : value (bits + 1) ≤ value other := value_strictMono.monotone greater
        have notThere := notNext (by omega)
        rw [Reached, middle, Nat.add_sub_cancel, not_or, not_lt, not_and] at notThere
        refine ⟨(abs_sub_le_of_lt_iff values).2 (by linarith), fun tie => ?_⟩
        have notBelow := (abs_sub_le_of_gt_iff values).1 tie.ge
        have odd := notThere.2 (by linarith)
        rwa [Nat.even_add_one, not_not] at odd
    refine ⟨isNumber, fun other inRange => ?_, fun other inRange different =>
      (compared other inRange different).2⟩
    by_cases same : other = bits
    · rw [same]
    · exact (compared other inRange same).1

/-- At most one pattern is nearest to a number. -/
theorem IsNearest.unique {q : ℚ} {a b : ℕ} (ha : IsNearest q a) (hb : IsNearest q b) : a = b := by
  have notLess : ∀ {a b : ℕ}, IsNearest q a → IsNearest q b → ¬a < b := by
    intro a b ha hb less
    rw [isNearest_iff_reached] at ha hb
    exact ha.2.2 (by omega) ((hb.2.1 (by omega)).of_le (by omega) less)
  exact Nat.le_antisymm (Nat.le_of_not_lt (notLess hb ha)) (Nat.le_of_not_lt (notLess ha hb))

/-- A pattern is nearest to its own value. -/
lemma isNearest_value {bits : ℕ} (h : bits ≤ infinityPattern) : IsNearest (value bits) bits where
  isNumber := h
  closest other _ := by rw [sub_self, abs_zero]; exact abs_nonneg _
  even_of_tie other _ different tie := by
    rw [sub_self, abs_zero, eq_comm, abs_eq_zero, sub_eq_zero] at tie
    exact absurd (value_strictMono.injective tie).symm different

/-! ## The search -/

/-- A comparison with half units is that of a number. -/
def Compares (against : ℕ → Ordering) (q : ℚ) : Prop :=
  ∀ halves : ℕ, against halves = compare q (halves / 2 ^ 1075)

/-- The boundary below a pattern, in half units, is the middle. -/
lemma lowerBoundary_eq_middle (bits : ℕ) : (lowerBoundary bits : ℚ) / 2 ^ 1075 = middle bits := by
  rw [lowerBoundary, middle, value, value, Nat.cast_add, pow_succ (2 : ℚ) 1074]
  generalize (2 : ℚ) ^ 1074 = scale
  ring

/-- The search asks whether the number has reached a pattern. -/
lemma reaches_iff {against : ℕ → Ordering} {q : ℚ} (h : Compares against q) {bits : ℕ} :
    reaches against bits = true ↔ Reached q bits := by
  rw [reaches, h, lowerBoundary_eq_middle, Reached]
  rcases lt_trichotomy q (middle bits) with less | same | greater
  · rw [compare_lt_iff_lt.2 less]
    simp [less.le, less.ne]
  · rw [compare_eq_iff_eq.2 same]
    simp [same, Nat.even_iff]
  · rw [compare_gt_iff_gt.2 greater]
    simp [greater]

/-- The search finds the nearest pattern. -/
theorem isNearest_round {against : ℕ → Ordering} {q : ℚ} (real : IsReal against)
    (h : Compares against q) : IsNearest q (round against) := by
  obtain ⟨inRange, reached, notNext⟩ := round_spec real
  refine isNearest_iff_reached.2 ⟨inRange, fun positive => ?_, fun finite => ?_⟩
  · exact (reaches_iff h).1 (reached positive)
  · rw [← reaches_iff h, notNext finite]
    exact Bool.false_ne_true

/-- A pattern that the number rounds to is nearest to it. -/
lemma isNearest_of_roundsTo {against : ℕ → Ordering} {q : ℚ} (h : Compares against q) {bits : ℕ}
    (inRange : bits ≤ infinityPattern) (there : roundsTo against bits = true) :
    IsNearest q bits := by
  rw [roundsTo, Bool.and_eq_true, Bool.not_eq_true', ← Bool.not_eq_true, reaches_iff h,
    reaches_iff h] at there
  exact isNearest_iff_reached.2 ⟨inRange, fun _ => there.1, fun _ => there.2⟩

end Binary64

namespace Decimal

open Binary64

/-! ## Decimal numbers -/

/-- The value of a decimal number. -/
def value (d : Decimal) : ℚ := d.digits * 10 ^ d.exponent

/-- A power of ten is a quotient of whole ones. -/
lemma zpow_eq_div (e : ℤ) : (10 : ℚ) ^ e = 10 ^ e.toNat / 10 ^ (-e).toNat := by
  rcases Int.le_total 0 e with h | h
  · rw [Int.toNat_of_nonpos (by omega : -e ≤ 0), pow_zero, div_one, ← zpow_natCast,
      Int.toNat_of_nonneg h]
  · rw [Int.toNat_of_nonpos h, pow_zero, one_div, ← zpow_natCast, Int.toNat_of_nonneg (by omega),
      zpow_neg, inv_inv]

/-- Quotients are compared by multiplying crosswise. -/
lemma compare_div {a b c d : ℕ} (hc : 0 < c) (hd : 0 < d) :
    compare ((a : ℚ) / c) (b / d) = compare (a * d) (b * c) := by
  have hc' : (0 : ℚ) < c := Nat.cast_pos.2 hc
  have hd' : (0 : ℚ) < d := Nat.cast_pos.2 hd
  rcases lt_trichotomy (a * d) (b * c) with less | same | greater
  · rw [compare_lt_iff_lt.2 less, compare_lt_iff_lt, div_lt_div_iff₀ hc' hd']
    exact_mod_cast less
  · rw [compare_eq_iff_eq.2 same, compare_eq_iff_eq, div_eq_div_iff hc'.ne' hd'.ne']
    exact_mod_cast same
  · rw [compare_gt_iff_gt.2 greater, compare_gt_iff_gt, div_lt_div_iff₀ hd' hc']
    exact_mod_cast greater

/-- The comparison of a decimal number is that of its value. -/
lemma compares_against (d : Decimal) : Compares d.against d.value := by
  intro halves
  have number : d.value =
      (d.digits * 10 ^ d.exponent.toNat : ℕ) / (10 ^ (-d.exponent).toNat : ℕ) := by
    rw [value, zpow_eq_div]
    push_cast
    ring
  have half := cast_pow 2 1075
  rw [Nat.cast_ofNat] at half
  simp only [against, scales]
  rw [number, ← half, compare_div (Nat.pow_pos (by decide)) (Nat.two_pow_pos 1075)]

/-- The number of digits bounds a number from above. -/
lemma lt_pow_countDigits (n : ℕ) : n < 10 ^ countDigits n :=
  (Nat.length_toDigits_le_iff (by decide) Nat.length_toDigits_pos).1 le_rfl

/-- The number of digits bounds a positive number from below. -/
lemma pow_countDigits_le {n : ℕ} (nonzero : n ≠ 0) : 10 ^ (countDigits n - 1) ≤ n := by
  have positive : 0 < countDigits n := Nat.length_toDigits_pos
  by_cases one : countDigits n = 1
  · rw [one]
    exact Nat.pos_of_ne_zero nonzero
  · refine Nat.le_of_not_lt fun less => ?_
    have fewer : countDigits n ≤ countDigits n - 1 :=
      (Nat.length_toDigits_le_iff (by decide) (by omega)).2 less
    omega

/-- A decimal number with its leading digit at a place lies below the power of ten of the
place. -/
lemma value_lt_pow_place (d : Decimal) :
    d.value < 10 ^ (d.exponent + countDigits d.digits) := by
  rw [value, add_comm, zpow_add₀ (by norm_num), zpow_natCast]
  have upper : (d.digits : ℚ) < 10 ^ countDigits d.digits := by
    exact_mod_cast lt_pow_countDigits d.digits
  exact mul_lt_mul_of_pos_right upper (by positivity)

/-- A decimal number with its leading digit at a place reaches the power of ten before the
place. -/
lemma pow_place_le_value {d : Decimal} (nonzero : d.digits ≠ 0) :
    (10 : ℚ) ^ (d.exponent + countDigits d.digits - 1) ≤ d.value := by
  have positive : 0 < countDigits d.digits := Nat.length_toDigits_pos
  have place : d.exponent + countDigits d.digits - 1 =
      (countDigits d.digits - 1 : ℕ) + d.exponent := by omega
  rw [value, place, zpow_add₀ (by norm_num), zpow_natCast]
  have lower : (10 : ℚ) ^ (countDigits d.digits - 1) ≤ d.digits := by
    exact_mod_cast pow_countDigits_le nonzero
  exact mul_le_mul_of_nonneg_right lower (by positivity)

/-- The value that the pattern of infinity counts as. -/
lemma value_infinityPattern : Binary64.value infinityPattern = 2 ^ 1024 := by
  have split : infinityPattern = (2046 + 1) * 2 ^ (52 : ℕ) := rfl
  rw [split, value_of_exponent, div_eq_iff (by positivity), ← pow_add]

/-- A number far beyond the largest finite range rounds to infinity. -/
lemma isNearest_infinity {q : ℚ} (h : 10 ^ 310 ≤ q) : IsNearest q infinityPattern := by
  refine isNearest_iff_reached.2 ⟨le_rfl, fun _ => .inl ?_, fun h => absurd h (lt_irrefl _)⟩
  have below : Binary64.value (infinityPattern - 1) < Binary64.value infinityPattern :=
    value_strictMono (by decide)
  have large : (2 : ℚ) ^ 1024 ≤ 10 ^ 310 := by
    exact_mod_cast (by decide +kernel : 2 ^ 1024 ≤ 10 ^ 310)
  rw [middle]
  rw [value_infinityPattern] at *
  generalize (2 : ℚ) ^ 1024 = top at *
  generalize (10 : ℚ) ^ 310 = limit at *
  linarith

/-- A number far below the smallest positive range rounds to zero. -/
lemma isNearest_zero {q : ℚ} (h : q ≤ 1 / 10 ^ 331) : IsNearest q 0 := by
  refine isNearest_iff_reached.2 ⟨Nat.zero_le _, fun h => absurd h (lt_irrefl _), fun _ => ?_⟩
  have first : middle (0 + 1) = 1 / 2 ^ 1075 := by
    have none : magnitude 0 = 0 := by decide
    have one : magnitude 1 = 1 := by decide
    rw [middle, zero_add, Nat.sub_self, Binary64.value, Binary64.value, none, one, Nat.cast_zero,
      Nat.cast_one, zero_div, zero_add, div_div, ← pow_succ]
  have small : (1 : ℚ) / 10 ^ 331 < 1 / 2 ^ 1075 := by
    refine one_div_lt_one_div_of_lt (by positivity) ?_
    exact_mod_cast (by decide +kernel : 2 ^ 1075 < 10 ^ 331)
  rw [Reached, first, not_or, not_lt, not_and_or]
  exact ⟨h.trans small.le, .inl (h.trans_lt small).ne⟩

/-- Decimal numbers are rounded correctly.

**Proof sketch.**  Within the range of floats this is what the search finds.  A leading digit at a
place outside of it bounds the number by a power of ten that has left the range already. -/
theorem isNearest_nearest (d : Decimal) : IsNearest d.value d.nearest := by
  rw [nearest]
  split
  · next zero =>
    apply isNearest_zero
    rw [value, zero, Nat.cast_zero, zero_mul]
    positivity
  · next nonzero =>
    split
    · next large =>
      refine isNearest_infinity (le_trans ?_ (pow_place_le_value nonzero))
      rw [← zpow_natCast]
      refine zpow_le_zpow_right₀ (by norm_num) ?_
      rw [overflowPlace] at large
      omega
    · split
      · next small =>
        refine isNearest_zero ((value_lt_pow_place d).le.trans ?_)
        rw [one_div, ← zpow_natCast, ← zpow_neg]
        refine zpow_le_zpow_right₀ (by norm_num) ?_
        rw [underflowPlace] at small
        omega
      · exact isNearest_round d.isReal_against d.compares_against

/-- Decimal numbers of the same value have the same nearest pattern. -/
theorem nearest_eq_of_value_eq {d e : Decimal} (same : d.value = e.value) :
    d.nearest = e.nearest :=
  (same ▸ isNearest_nearest d).unique (isNearest_nearest e)

/-! ## Shortest decimals -/

/-- Powers of ten by their prime factors. -/
lemma ten_pow (n : ℕ) : (10 : ℚ) ^ n = 2 ^ n * 5 ^ n := by
  rw [← mul_pow]
  norm_num

/-- The exact decimal of a pattern has its value. -/
lemma value_exact (bits : ℕ) : (exact bits).value = Binary64.value bits := by
  rw [value, exact, Binary64.value, zpow_neg, zpow_ofNat, ten_pow, Nat.cast_mul,
    cast_pow 5 1074, Nat.cast_ofNat, ← div_eq_mul_inv]
  exact mul_div_mul_right _ _ (by positivity)

/-- The result of a search through grids leads back to the pattern, whichever grid it is found
on. -/
lemma isNearest_firstOnGrid {bits : ℕ} (inRange : bits ≤ infinityPattern) :
    ∀ steps exponent, IsNearest (firstOnGrid bits steps exponent).value bits := by
  intro steps
  induction steps with
  | zero =>
    intro exponent
    rw [firstOnGrid, value_exact]
    exact isNearest_value inRange
  | succ steps ih =>
    intro exponent
    rw [firstOnGrid]
    cases there : onGrid? bits exponent with
    | some d => exact isNearest_of_roundsTo d.compares_against inRange (roundsTo_of_onGrid? there)
    | none => exact ih _

/-- The shortest decimal of a pattern leads back to it. -/
theorem isNearest_shortest {bits : ℕ} (inRange : bits ≤ infinityPattern) :
    IsNearest (shortest bits).value bits := isNearest_firstOnGrid inRange _ _

end Decimal

end MultiDispatch
