import MultiDispatch.Decimal.Layout
import MultiDispatch.Numeric.Types
import MultiDispatch.Proofs.LiteralGrammar
import MultiDispatch.Tagged

set_option autoImplicit false
set_option relaxedAutoImplicit false

/-!
# Numbers survive being written

The text of a finite number is a number literal whose magnitude is the shortest decimal of the
number, in every layout in use, so reading it gives the number back.  The only bit that is lost is
the sign of zero.

## Main results

* `MultiDispatch.Layout.exists_literal_withExponent`, `exists_literal_positional` — what the
  layouts write are literals of the decimal.
* `MultiDispatch.Numeric.read_numberText` — the text of a finite number reads as that number.
* `MultiDispatch.Numeric.number_roundTrip` — numbers survive being written, texts being read, and
  the texts of all other floats are rejected.
-/

namespace MultiDispatch

open Numeral Decimal
open NumberLiteral (Literal Ending)

/-! ## Digits in their places -/

/-- The digits of a number are the text of digits that stand for it. -/
lemma exists_digitsOf (n : ℕ) :
    ∃ digits : List Digit, digits ≠ [] ∧ digitsOf n = digitsText digits ∧ number digits = n := by
  obtain ⟨digits, same⟩ : ∃ digits, Nat.toDigits 10 n = digitsText digits :=
    exists_digitsText fun c there => Nat.isDigit_of_mem_toDigits (by decide) (by decide) there
  refine ⟨digits, ?_, same, ?_⟩
  · rintro rfl
    exact Nat.toDigits_ne_nil same
  · rw [← wholeNumber_digitsText, ← same, wholeNumber, ← Nat.ofDigitChars_eq_foldl,
      Nat.ofDigitChars_ten_toDigits]

/-- Zeros are the text of zeros. -/
lemma zeros_eq (count : ℕ) : zeros count = digitsText (List.replicate count 0) := by
  rw [zeros, digitsText, List.map_replicate]
  rfl

/-- Zeros stand for nothing. -/
lemma number_replicate_zero (count : ℕ) : number (List.replicate count 0) = 0 := by
  induction count with
  | zero => rfl
  | succ count ih => rw [List.replicate_succ', number_append_singleton, ih]; rfl

/-- Putting the point into digits shifts the number that they stand for.

**Proof sketch.**  Either zeros are put between the point and the digits, which makes for more
places and the same number; or the point comes behind the digits and zeros, which makes for a
larger number and no places; or it comes between the digits, which leaves their number as it is.
-/
lemma exists_placePoint (digits : List Digit) (whole : ℤ) :
    ∃ front back, placePoint (digitsText digits) whole = (digitsText front, digitsText back) ∧
      front ≠ [] ∧
      (number (front ++ back) : ℚ) / 10 ^ back.length =
        number digits * 10 ^ (whole - digits.length) := by
  rw [placePoint]
  split
  · next small =>
    have places : whole - digits.length = -((-whole).toNat + digits.length : ℕ) := by omega
    refine ⟨[0], List.replicate (-whole).toNat 0 ++ digits, ?_, List.cons_ne_nil _ _, ?_⟩
    · rw [zeros_eq, digitsText_append]
      rfl
    · have same : number ([0] ++ (List.replicate (-whole).toNat 0 ++ digits)) = number digits := by
        rw [← List.append_assoc, ← List.replicate_one, List.replicate_append_replicate,
          number_append, number_replicate_zero, zero_mul, zero_add]
      rw [same, List.length_append, List.length_replicate, places, zpow_neg, zpow_natCast,
        div_eq_mul_inv]
  · next large =>
    obtain ⟨count, rfl⟩ := Int.eq_ofNat_of_zero_le (not_le.1 large).le
    rw [Int.toNat_natCast, length_digitsText]
    refine ⟨digits.take count ++ List.replicate (count - digits.length) 0, digits.drop count,
      ?_, ?_, ?_⟩
    · rw [zeros_eq, digitsText_append]
      simp only [digitsText, List.map_take, List.map_drop]
    · rw [← List.length_pos_iff, List.length_append, List.length_take, List.length_replicate]
      omega
    · -- Either there are zeros or there are places, and never both.
      rcases Nat.le_total digits.length count with beyond | within
      · have places : (count : ℤ) - digits.length = (count - digits.length : ℕ) := by omega
        rw [List.take_of_length_le beyond, List.drop_of_length_le beyond, List.append_nil,
          number_append, number_replicate_zero, List.length_replicate, places, zpow_natCast,
          List.length_nil, pow_zero, div_one, add_zero]
        push_cast
        rfl
      · have places : (count : ℤ) - digits.length = -(digits.length - count : ℕ) := by omega
        rw [Nat.sub_eq_zero_of_le within, List.replicate_zero, List.append_nil,
          List.take_append_drop, List.length_drop, places, zpow_neg, zpow_natCast, div_eq_mul_inv]

/-! ## Layouts -/

/-- The sign that is written: a minus or none. -/
def writtenSign (negative : Bool) : Option Sign := if negative then some .minus else none

/-- The sign that is written is that of the number. -/
@[simp] lemma isMinus_writtenSign (negative : Bool) :
    isMinus (writtenSign negative) = negative := by
  cases negative <;> rfl

/-- A significand as it is written: a point only in front of digits. -/
def writtenSignificand (negative : Bool) (front back : List Digit) : Significand :=
  ⟨writtenSign negative, front, if back = [] then none else some back⟩

/-- Its digits behind the point. -/
lemma places_writtenSignificand (negative : Bool) (front back : List Digit) :
    (writtenSignificand negative front back).places = back := by
  rw [Significand.places, writtenSignificand]
  cases back <;> rfl

/-- Its decimal number. -/
lemma decimal_writtenSignificand (negative : Bool) (front back : List Digit) (exponent : ℤ) :
    (writtenSignificand negative front back).decimal exponent =
      ⟨number (front ++ back), exponent - back.length⟩ := by
  rw [Significand.decimal, places_writtenSignificand]
  rfl

/-- Its text. -/
lemma unsignedText_writtenSignificand (negative : Bool) (front back : List Digit) :
    (writtenSignificand negative front back).unsignedText =
      digitsText front ++ if (digitsText back).isEmpty then [] else '.' :: digitsText back := by
  rw [Significand.unsignedText, writtenSignificand]
  cases back <;> rfl

namespace Layout

/-- The exponents that are written with their signs are exponents. -/
lemma exists_exponent (k : ℤ) :
    ∃ exponent : Exponent, exponent.text = 'e' :: scientific.exponentText k ∧
      exponent.value = k := by
  obtain ⟨digits, nonempty, form, value⟩ := exists_digitsOf k.natAbs
  rw [exponentText, form]
  split
  · next negative =>
    refine ⟨⟨.small, some .minus, digits, nonempty⟩, rfl, ?_⟩
    change -(number digits : ℤ) = k
    omega
  · next positive =>
    refine ⟨⟨.small, some .plus, digits, nonempty⟩, rfl, ?_⟩
    change (number digits : ℤ) = k
    omega

/-- A decimal with an exponent is a literal of its value. -/
theorem exists_literal_withExponent (negative : Bool) (d : Decimal) :
    ∃ literal : Literal, literal.text =
        signText (writtenSign negative) ++ scientific.withExponent d ∧
      literal.isNegative = negative ∧ literal.magnitude = d.value := by
  obtain ⟨digits, nonempty, form, value⟩ := exists_digitsOf d.digits
  obtain ⟨lead, rest, rfl⟩ := List.exists_cons_of_ne_nil nonempty
  obtain ⟨exponent, exponentForm, exponentValue⟩ := exists_exponent d.leadingExponent
  refine ⟨⟨writtenSignificand negative [lead] rest, .written exponent,
    .inl (.inl (List.cons_ne_nil _ _))⟩, ?_, isMinus_writtenSign negative, ?_⟩
  · rw [Literal.text, Significand.text, unsignedText_writtenSignificand, Ending.text, exponentForm,
      withExponent, form, List.append_assoc, List.append_assoc]
    cases rest <;> rfl
  · have same : (writtenSignificand negative [lead] rest).decimal d.leadingExponent = d := by
      rw [decimal_writtenSignificand, List.singleton_append, value, leadingExponent, form,
        length_digitsText, List.length_cons]
      congr 1
      omega
    rw [Literal.magnitude, Ending.value, Ending.exponent?, Numeral.exponentValue, exponentValue,
      ← Significand.value_decimal, same]

/-- A decimal with the point in its place is a literal of its value. -/
theorem exists_literal_positional (negative : Bool) (d : Decimal) :
    ∃ literal : Literal, literal.text =
        signText (writtenSign negative) ++ plain.positional d ∧
      literal.isNegative = negative ∧ literal.magnitude = d.value := by
  obtain ⟨digits, nonempty, form, value⟩ := exists_digitsOf d.digits
  obtain ⟨front, back, placed, someFront, shifted⟩ :=
    exists_placePoint digits (d.leadingExponent + 1)
  refine ⟨⟨writtenSignificand negative front back, .absent, .inl (.inl someFront)⟩, ?_,
    isMinus_writtenSign negative, ?_⟩
  · rw [Literal.text, Significand.text, unsignedText_writtenSignificand, Ending.text,
      List.append_nil, positional, form, placed]
    rfl
  · have exponent : d.leadingExponent + 1 - digits.length = d.exponent := by
      rw [leadingExponent, form, length_digitsText]
      omega
    rw [exponent, value] at shifted
    have absent : Ending.absent.value = 0 := rfl
    rw [Literal.magnitude, ← Significand.value_decimal, absent, decimal_writtenSignificand,
      Decimal.value, Decimal.value, ← shifted, zero_sub, zpow_neg, zpow_natCast, div_eq_mul_inv]

/-- A layout writes a number that is neither zero nor infinite as its sign and its shortest
decimal. -/
lemma render_eq (layout : Layout) {x : Float} (finite : Binary64.IsFinite x)
    (nonzero : Binary64.pattern x ≠ 0) :
    layout.render x =
      signText (writtenSign (Binary64.isNegative x)) ++
        layout.decimal (shortest (Binary64.pattern x)) := by
  rw [render, if_neg finite.not_special.1, unsigned, if_neg finite.ne, if_neg nonzero]
  cases Binary64.isNegative x <;> rfl

end Layout

/-! ## Numbers -/

namespace Numeric

open Binary64

/-- The float without the sign of zero. -/
def withoutZeroSign (x : Float) : Float := if x = ofParts true 0 then ofParts false 0 else x

/-- Losing the sign of zero is no numerical difference. -/
lemma withoutZeroSign_beq {x : Float} (finite : IsFinite x) : (withoutZeroSign x == x) = true := by
  rw [withoutZeroSign]
  split
  · next zero => rw [zero]; exact zeros_beq _ _ rfl rfl
  · exact beq_self finite.le

/-- Zero loses its sign. -/
lemma withoutZeroSign_of_zero {x : Float} (zero : pattern x = 0) :
    withoutZeroSign x = ofParts false 0 := by
  rw [withoutZeroSign]
  split
  · rfl
  · next notNegative =>
    rw [← ofParts_parts x, zero] at notNegative ⊢
    cases sign : isNegative x with
    | false => rfl
    | true => exact absurd (by rw [sign]) notNegative

/-- No other number changes. -/
lemma withoutZeroSign_of_ne_zero {x : Float} (nonzero : pattern x ≠ 0) : withoutZeroSign x = x := by
  refine if_neg fun same => nonzero ?_
  rw [same, pattern_ofParts true (Nat.zero_le _)]

/-- The pattern does not tell the signs of zero apart. -/
lemma pattern_withoutZeroSign (x : Float) : pattern (withoutZeroSign x) = pattern x := by
  by_cases zero : pattern x = 0
  · rw [withoutZeroSign_of_zero zero, zero, pattern_ofParts _ (Nat.zero_le _)]
  · rw [withoutZeroSign_of_ne_zero zero]

/-- The text of zero is a literal of zero. -/
lemma exists_literal_zero (withExponent : Bool) :
    ∃ literal : Literal,
      (if withExponent then "0e+0".toList else "0".toList) = literal.text ∧
        literal.Denotes (ofParts false 0) := by
  have digit : (Significand.mk none [0] none).HasDigits := .inl (List.cons_ne_nil _ _)
  have value : (Significand.mk none [0] none).value = 0 := by
    have zero : Numeral.number [0] = 0 := rfl
    have none : Numeral.number [] = 0 := rfl
    rw [Significand.value, Significand.places, Option.getD_none, zero, none]
    norm_num
  have denotes : ∀ ending, Literal.Denotes ⟨⟨none, [0], none⟩, ending, .inl digit⟩
      (ofParts false 0) := by
    intro ending
    refine ⟨isNegative_ofParts false (Nat.zero_le _), ?_⟩
    rw [Literal.magnitude, value, zero_mul, pattern_ofParts false (Nat.zero_le _)]
    exact isNearest_zero (by positivity)
  cases withExponent with
  | false => exact ⟨_, rfl, denotes .absent⟩
  | true => exact ⟨_, rfl, denotes (.written ⟨.small, some .plus, [0], List.cons_ne_nil _ _⟩)⟩

/-- The text of zero. -/
lemma numberText_of_zero {x : Float} (zero : pattern x = 0) (withExponent : Bool) :
    (numberText x withExponent).toList =
      if withExponent then "0e+0".toList else "0".toList := by
  have finite : IsFinite x := by
    rw [IsFinite, zero]
    decide
  have isZero : isZero x = true := by rw [isZero, beq_iff_eq, zero]
  obtain ⟨isNumber, notInfinite⟩ := finite.not_special
  rw [numberText, String.toList_ofList, if_neg isNumber, if_neg notInfinite, if_pos isZero]

/-- The text of a finite number other than zero. -/
lemma numberText_of_ne_zero {x : Float} (finite : IsFinite x) (nonzero : pattern x ≠ 0)
    (withExponent : Bool) :
    (numberText x withExponent).toList =
      if withExponent || needsExponent (pattern x) then Layout.scientific.render x
      else Layout.plain.render x := by
  have notZero : ¬isZero x = true := by rwa [isZero, beq_iff_eq]
  obtain ⟨isNumber, notInfinite⟩ := finite.not_special
  rw [numberText, String.toList_ofList, if_neg isNumber, if_neg notInfinite, if_neg notZero]

/-- The text of a finite number is a literal that denotes it, or zero for zero. -/
theorem exists_literal_numberText {x : Float} (finite : IsFinite x) (withExponent : Bool) :
    ∃ literal : Literal, (numberText x withExponent).toList = literal.text ∧
      literal.Denotes (withoutZeroSign x) := by
  by_cases zero : pattern x = 0
  · rw [numberText_of_zero zero, withoutZeroSign_of_zero zero]
    exact exists_literal_zero withExponent
  · rw [numberText_of_ne_zero finite zero, withoutZeroSign_of_ne_zero zero,
      Layout.render_eq _ finite zero, Layout.render_eq _ finite zero]
    have near := isNearest_shortest finite.le
    split
    · obtain ⟨literal, text, sign, magnitude⟩ :=
        Layout.exists_literal_withExponent (isNegative x) (shortest (pattern x))
      exact ⟨literal, text.symm, sign.symm, magnitude ▸ near⟩
    · obtain ⟨literal, text, sign, magnitude⟩ :=
        Layout.exists_literal_positional (isNegative x) (shortest (pattern x))
      exact ⟨literal, text.symm, sign.symm, magnitude ▸ near⟩

/-- The characters of literals are not blank. -/
lemma isBlank_eq_false {c : Char} (h : NumberLiteral.IsGrammarChar c) : Text.isBlank c = false := by
  rcases h with digit | rfl | rfl | rfl | marker
  · obtain ⟨d, rfl⟩ := exists_digitChar digit
    clear digit
    revert d
    decide
  · decide
  · decide
  · decide
  · rcases NumberLiteral.isMarker_iff.1 marker with rfl | rfl <;> decide

/-- What is read from the text of a finite number. -/
theorem read_numberText {x : Float} (finite : IsFinite x) (withExponent : Bool) :
    NumberLiteral.read (numberText x withExponent) = .ok (withoutZeroSign x) := by
  obtain ⟨literal, text, denotes⟩ := exists_literal_numberText finite withExponent
  have notBlank : ∀ c ∈ literal.text, Text.isBlank c = false := fun c there =>
    isBlank_eq_false (literal.text_spec.1 c there)
  rw [NumberLiteral.read_eq_ok_iff, NumberLiteral.number_eq_ok_iff]
  refine ⟨literal, ?_, denotes⟩
  rw [text]
  exact Text.trimBlank_of_ends (fun c first => notBlank c (List.mem_of_mem_head? first))
    fun c last => notBlank c (List.mem_of_mem_getLast? last)

/-- The texts of the two zeros are the same. -/
lemma numberText_withoutZeroSign (x : Float) (withExponent : Bool) :
    numberText (withoutZeroSign x) withExponent = numberText x withExponent := by
  by_cases zero : pattern x = 0
  · have same : pattern (ofParts false 0) = 0 := pattern_ofParts false (Nat.zero_le _)
    rw [withoutZeroSign_of_zero zero, ← String.toList_inj, numberText_of_zero zero,
      numberText_of_zero same]
  · rw [withoutZeroSign_of_ne_zero zero]

/-- The texts of the infinities. -/
lemma numberText_of_infinite {x : Float} (infinite : pattern x = infinityPattern)
    (withExponent : Bool) :
    numberText x withExponent = if isNegative x then "-Infinity" else "Infinity" := by
  have isNumber : ¬isNotANumber x = true :=
    Bool.eq_false_iff.1 (isNotANumber_eq_false_iff.2 infinite.le)
  have isInfinite : isInfinite x = true := by rw [Binary64.isInfinite, infinite, beq_self_eq_true]
  rw [numberText, if_neg isNumber, if_pos isInfinite]
  cases isNegative x <;> rfl

/-- The text of a float that is not finite has a character that no literal has. -/
lemma exists_stray_of_not_finite {x : Float} (notFinite : ¬IsFinite x) (withExponent : Bool) :
    ∃ c ∈ Text.trimBlank (numberText x withExponent).toList, ¬NumberLiteral.IsGrammarChar c := by
  by_cases notNumber : isNotANumber x = true
  · rw [numberText, String.toList_ofList, if_pos notNumber]
    exact ⟨'N', by decide, by decide⟩
  · have number : isNotANumber x = false := Bool.eq_false_iff.2 notNumber
    rw [numberText_of_infinite (pattern_eq_of_not_finite number notFinite)]
    refine ⟨'I', ?_, by decide⟩
    cases isNegative x <;> decide

variable {υ : Role → Type}

/-- **Number literals round-trip.**  A finite number that is written, with an exponent or without
one, and read again comes back, numerically equal and with all its bits but for the sign of zero.
Its text that is read and written again comes back as it was.  The texts of all other floats are
rejected. -/
theorem number_roundTrip [Interprets υ (NumericRule υ)] (x : Float) :
    (IsFinite x →
      (∀ written read : List (Param (NumericRule υ)), ∃ y,
        number.ofLiteral ((number.tag (.number x)).text written) read =
          .ok (number.tag (.number y)) ∧
        (y == x) = true ∧ y = if x = ofParts true 0 then ofParts false 0 else x) ∧
      ∀ withExponent, ∃ y, NumberLiteral.read (numberText x withExponent) = .ok y ∧
        numberText y withExponent = numberText x withExponent) ∧
    (¬IsFinite x → ∀ withExponent, ∃ fault,
      NumberLiteral.read (numberText x withExponent) =
        .error (.invalidNumber (numberText x withExponent) fault)) := by
  refine ⟨fun finite => ⟨fun written read => ?_, fun withExponent => ?_⟩,
    fun notFinite withExponent => ?_⟩
  · refine ⟨withoutZeroSign x, ?_, withoutZeroSign_beq finite, rfl⟩
    have parsed : number.parse (numberText x (asksForExponent written)) read =
        ((NumberLiteral.read (numberText x (asksForExponent written))).map Payload.number).mapError
          TypeFault.reading := rfl
    refine TypeNode.ofLiteral_eq_ok_iff.2 ⟨rfl, parsed.trans ?_⟩
    rw [read_numberText finite]
    rfl
  · exact ⟨withoutZeroSign x, read_numberText finite withExponent,
      numberText_withoutZeroSign x withExponent⟩
  · exact NumberLiteral.rejected_of_stray (.inl (exists_stray_of_not_finite notFinite withExponent))

end Numeric

end MultiDispatch
