import MultiDispatch.Payload
import MultiDispatch.Proofs.LiteralSigns

set_option autoImplicit false
set_option relaxedAutoImplicit false

/-!
# Texts as literals and as payloads

A text stands for a number in two ways: as a literal of the type of numbers, and by the numeric
coercion of a payload.  The coercion takes numerals only, while literals have their liberties; on
the other hand it takes the names of infinity and of the value that is not a number.  On what both
take they agree to the bit.

## Main definitions

* `MultiDispatch.NumberLiteral.IsNamed` — a name of infinity or of the value that is not a number.
* `MultiDispatch.NumberLiteral.HasUnfinishedExponent` — the exponent was begun but has no digits.
* `MultiDispatch.NumberLiteral.Literal.IsNumeral` — a literal that takes no liberties.

## Main results

* `MultiDispatch.NumberLiteral.Literal.isNumeral_iff` — this can be told from the text.
* `MultiDispatch.NumberLiteral.read_eq_ok_cases` — what is read as a numeral is named or a literal.
* `MultiDispatch.NumberLiteral.literals_agree_with_coercion` — where the two ways agree.
-/

namespace MultiDispatch

namespace NumberLiteral

open Numeral Binary64

/-! ## Names and liberties -/

/-- Whether a text is a name of infinity or of the value that is not a number, in any case and with
a sign or without one. -/
def IsNamed (text : List Char) : Prop :=
  ∃ sign word, text = signText sign ++ word ∧
    word.map Char.toLower ∈ ["inf".toList, "infinity".toList, "nan".toList]

/-- Whether behind the first marker of an exponent there is nothing, a sign or a plus and a
minus. -/
def HasUnfinishedExponent (text : List Char) : Prop :=
  ∃ marker rest, isMarker marker = true ∧ text = mantissa text ++ marker :: rest ∧
    rest ∈ [[], ['+'], ['-'], ['+', '-']]

/-- The names are those that have a pattern. -/
lemma isNamed_iff {text : List Char} :
    IsNamed text ↔ ∃ sign word bits, text = signText sign ++ word ∧
      namedPattern? word = some bits := by
  have named : ∀ word : List Char,
      word.map Char.toLower ∈ ["inf".toList, "infinity".toList, "nan".toList] ↔
        ∃ bits, namedPattern? word = some bits := by
    intro word
    simp only [namedPattern?, List.mem_cons, List.not_mem_nil, or_false, ← or_assoc]
    split
    · next infinite => simp only [infinite, true_or, Option.some.injEq, exists_eq']
    · next notInfinite =>
      simp only [notInfinite, false_or]
      split
      · next notNumber => simp only [notNumber, Option.some.injEq, exists_eq']
      · next other => simp only [other, reduceCtorEq, exists_false]
  simp only [IsNamed, named, exists_and_left]

/-- A name has a letter that no literal has. -/
lemma IsNamed.exists_stray {text : List Char} (named : IsNamed text) :
    ∃ c ∈ text, ¬IsGrammarChar c := by
  obtain ⟨sign, word, bits, rfl, found⟩ := isNamed_iff.1 named
  obtain ⟨c, rest, rfl, letter⟩ := start_of_namedPattern? found
  refine ⟨c, List.mem_append_right _ List.mem_cons_self, ?_⟩
  rw [← isLiteralChar_toLower_iff]
  rcases letter with same | same <;> rw [same] <;> decide

/-! ## Literals that are numerals -/

namespace Literal

/-- Whether a literal takes no liberties: it has digits, and its exponent is not left unfinished. -/
def IsNumeral (literal : Literal) : Prop :=
  literal.significand.HasDigits ∧ ∀ marker rest, literal.ending ≠ .dangling marker rest

/-- An exponent is unfinished exactly if the text of the literal says so. -/
lemma hasUnfinishedExponent_iff (literal : Literal) :
    HasUnfinishedExponent literal.text ↔ ∃ marker rest, literal.ending = .dangling marker rest := by
  simp only [HasUnfinishedExponent, mantissa_text, mem_unfinished_iff]
  simp only [text, List.append_cancel_left_eq]
  constructor
  · rintro ⟨c, behind, -, same, rest, rfl⟩
    cases ending : literal.ending with
    | absent =>
      rw [ending] at same
      cases same
    | written exponent =>
      rw [ending, Ending.text, exponent_text_eq] at same
      exact absurd (List.cons.inj same).2 (text_ne_unfinished exponent rest)
    | dangling marker rest => exact ⟨marker, rest, rfl⟩
  · rintro ⟨marker, rest, ending⟩
    exact ⟨marker.char, rest.text, isMarker_char marker, by rw [ending, Ending.text], rest, rfl⟩

/-- Whether a literal takes liberties can be told from its text. -/
lemma isNumeral_iff (literal : Literal) :
    literal.IsNumeral ↔
      ¬(HasUnfinishedExponent literal.text ∨ mantissa literal.text = ['.']) := by
  rw [not_or, hasUnfinishedExponent_iff, ← ne_eq (mantissa _), mantissa_ne_point_iff, and_comm,
    IsNumeral]
  simp only [not_exists, ne_eq]

/-- Completing a point does not matter for the number of a literal. -/
lemma float_eq (literal : Literal) :
    literal.float = ofParts (isMinus literal.significand.sign)
      (literal.significand.decimal literal.ending.value).nearest := by
  have same : ((complete literal.significand).decimal literal.ending.value).value =
      (literal.significand.decimal literal.ending.value).value := by
    rw [Significand.value_decimal, Significand.value_decimal, value_complete]
  rw [float, isNegative, Decimal.nearest_eq_of_value_eq same]

/-- A literal that takes no liberties is read as a numeral, with the same number. -/
lemma IsNumeral.read_text {literal : Literal} (h : literal.IsNumeral) :
    Numeral.read literal.text = .ok literal.float := by
  obtain ⟨digits, finished⟩ := h
  have ending : literal.ending.text = exponentText literal.ending.exponent? := by
    cases written : literal.ending with
    | absent => rfl
    | written exponent => rfl
    | dangling marker rest => exact absurd written (finished marker rest)
  refine Numeral.read_eq_ok_iff.2 (.inl ⟨literal.significand, literal.ending.exponent?, digits, ?_,
    literal.float_eq⟩)
  rw [text, ending]

end Literal

/-- An exponent that may be left out is an ending that is not left unfinished. -/
lemma exists_ending_of_exponent (exponent : Option Exponent) :
    ∃ ending : Ending, ending.text = exponentText exponent ∧ ending.exponent? = exponent ∧
      ∀ marker rest, ending ≠ .dangling marker rest := by
  cases exponent with
  | none => exact ⟨.absent, rfl, rfl, by rintro _ _ ⟨⟩⟩
  | some exponent => exact ⟨.written exponent, rfl, rfl, by rintro _ _ ⟨⟩⟩

/-- What is read as a numeral is a name, or the text of a literal that takes no liberties. -/
theorem read_eq_ok_cases {text : List Char} {x : Float} (h : Numeral.read text = .ok x) :
    IsNamed text ∨ ∃ literal : Literal, literal.IsNumeral ∧ text = literal.text ∧
      x = literal.float := by
  rcases Numeral.read_eq_ok_iff.1 h with
    ⟨s, exponent, digits, form, value⟩ | ⟨sign, word, bits, named, form, -⟩
  · obtain ⟨ending, written, same, finished⟩ := exists_ending_of_exponent exponent
    refine .inr ⟨⟨s, ending, .inl digits⟩, ⟨digits, finished⟩, ?_, ?_⟩
    · rw [form, Literal.text, written]
    · rw [value, Literal.float_eq, Ending.value, same]
  · exact .inl (isNamed_iff.2 ⟨sign, word, bits, form, named⟩)

/-! ## The two ways -/

/-- The coercion of a text is that of the numeral without the blanks around it. -/
lemma toFloat?_string_eq_some_iff {source : String} {x : Float} :
    (Payload.string source).toFloat? = some x ↔
      Numeral.read (Text.trimBlank source.toList) = .ok x := by
  rw [Payload.toFloat?]
  cases Numeral.read (Text.trimBlank source.toList) <;> simp [Except.toOption]

variable {source : String} {x : Float}

/-- A name is coerced, and no literal. -/
lemma coerced_of_isNamed (named : IsNamed (Text.trimBlank source.toList)) :
    (∃ y, (Payload.string source).toFloat? = some y) ∧ ¬∃ y, read source = .ok y := by
  obtain ⟨sign, word, bits, form, found⟩ := isNamed_iff.1 named
  refine ⟨⟨ofParts (isMinus sign) bits, toFloat?_string_eq_some_iff.2 ?_⟩, ?_⟩
  · exact Numeral.read_eq_ok_iff.2 (.inr ⟨sign, word, bits, found, form, rfl⟩)
  · rw [← exists_fault_iff]
    exact rejected_of_stray (.inl named.exists_stray)

/-- What is coerced and no name is a literal of the same number. -/
lemma read_of_coerced (coerced : (Payload.string source).toFloat? = some x)
    (notNamed : ¬IsNamed (Text.trimBlank source.toList)) : read source = .ok x := by
  obtain ⟨literal, -, text, rfl⟩ :=
    (read_eq_ok_cases (toFloat?_string_eq_some_iff.1 coerced)).resolve_left notNamed
  exact read_eq_ok_iff.2 (number_text text)

/-- A literal that takes no liberties is coerced to the same number. -/
lemma coerced_of_read (ok : read source = .ok x)
    (strict : ¬(HasUnfinishedExponent (Text.trimBlank source.toList) ∨
      mantissa (Text.trimBlank source.toList) = ['.'])) :
    (Payload.string source).toFloat? = some x := by
  have number := read_eq_ok_iff.1 ok
  obtain ⟨literal, text⟩ := exists_literal number
  rw [number_text text] at number
  cases number
  rw [text, ← Literal.isNumeral_iff] at strict
  rw [toFloat?_string_eq_some_iff, text, strict.read_text]

/-- A literal that takes liberties is not coerced. -/
lemma not_coerced_of_read (ok : read source = .ok x)
    (liberty : HasUnfinishedExponent (Text.trimBlank source.toList) ∨
      mantissa (Text.trimBlank source.toList) = ['.']) :
    (Payload.string source).toFloat? = none := by
  rw [Option.eq_none_iff_forall_ne_some]
  intro y coerced
  rcases read_eq_ok_cases (toFloat?_string_eq_some_iff.1 coerced) with
    named | ⟨literal, numeral, text, -⟩
  · exact (coerced_of_isNamed named).2 ⟨x, ok⟩
  · rw [text] at liberty
    exact literal.isNumeral_iff.1 numeral liberty

/-- **Literals and coercion agree.**  A text whose coercion has a number is a literal of the same
number, unless it is a name of infinity or of the value that is not a number; names are no literals.
Conversely a literal is coerced to the same number, unless its exponent is left unfinished or there
is nothing but a point before the exponent; such a literal has no coercion. -/
theorem literals_agree_with_coercion (source : String) :
    let text := Text.trimBlank source.toList
    (∀ y, (Payload.string source).toFloat? = some y → ¬IsNamed text → read source = .ok y) ∧
    (IsNamed text →
      (∃ y, (Payload.string source).toFloat? = some y) ∧ ¬∃ x, read source = .ok x) ∧
    ∀ x, read source = .ok x →
      ((Payload.string source).toFloat? = some x ↔
        ¬(HasUnfinishedExponent text ∨ mantissa text = ['.'])) ∧
      (HasUnfinishedExponent text ∨ mantissa text = ['.'] →
        (Payload.string source).toFloat? = none) := by
  intro text
  refine ⟨fun y => read_of_coerced, coerced_of_isNamed, fun x ok => ⟨⟨fun coerced liberty => ?_,
    coerced_of_read ok⟩, not_coerced_of_read ok⟩⟩
  rw [not_coerced_of_read ok liberty] at coerced
  cases coerced

/-! ### Liberties and names -/

/-- Zero with an unfinished exponent and the bare point are literals only, and a name has a coercion
only. -/
example : read "0E+-" = .ok 0 ∧ (Payload.string "0E+-").toFloat? = none ∧
    read ".E1" = .ok 0 ∧ (Payload.string ".E1").toFloat? = none ∧
    read "-Inf" = .error (.invalidNumber "-Inf" .strayCharacter) ∧
    (Payload.string "-Inf").toFloat? = some (ofParts true infinityPattern) := by
  refine ⟨by rfl, by rfl, by rfl, by rfl, by rfl, by rfl⟩

end NumberLiteral

end MultiDispatch
