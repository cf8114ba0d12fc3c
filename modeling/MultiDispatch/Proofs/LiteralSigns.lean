import MultiDispatch.Proofs.LiteralGrammar

set_option autoImplicit false
set_option relaxedAutoImplicit false

/-!
# Signs of number literals

A literal without a sign may be given one, and a sign may be taken away.  What is read then differs
by this sign.  The only exception is the bare point: it is completed to zero, but only where it
starts the text, and so it takes no sign.

## Main definitions

* `MultiDispatch.NumberLiteral.IsUnsigned` — a text that a sign may be put in front of.
* `MultiDispatch.NumberLiteral.mantissa` — the part of a text before an exponent.
* `MultiDispatch.NumberLiteral.SignsAgree` — a text is read alike with either sign and without.

## Main results

* `MultiDispatch.NumberLiteral.number_signed_iff` — what is read from a text behind a sign.
* `MultiDispatch.NumberLiteral.signsAgree_iff_not_point` — signs agree on all texts but points.
-/

namespace MultiDispatch

namespace NumberLiteral

open Numeral Binary64

/-! ## Texts and their mantissas -/

/-- Whether a text is not empty, has no blank at either end and does not start with a sign. -/
structure IsUnsigned (source : String) : Prop where
  /-- There is a character. -/
  nonempty : source.toList ≠ []
  /-- There is no blank at the start. -/
  noLeadingBlank : ∀ c ∈ source.toList.head?, Text.isBlank c = false
  /-- There is no blank at the end. -/
  noTrailingBlank : ∀ c ∈ source.toList.getLast?, Text.isBlank c = false
  /-- There is no sign at the start. -/
  noSign : ∀ c ∈ source.toList.head?, c ≠ '+' ∧ c ≠ '-'

/-- What a text has before the marker of an exponent. -/
def mantissa (text : List Char) : List Char := text.takeWhile fun c => !isMarker c

/-- The mantissa of a literal is its significand. -/
lemma mantissa_text (literal : Literal) : mantissa literal.text = literal.significand.text := by
  have front : ∀ c ∈ literal.significand.text, (!isMarker c) = true := fun c there => by
    rw [(isGrammarChar_of_mem_text there).2, Bool.not_false]
  rw [mantissa, Literal.text, List.takeWhile_append_of_pos front]
  rcases literal.ending.text_cases with empty | ⟨c, rest, form, marker, -⟩
  · rw [empty, List.takeWhile_nil, List.append_nil]
  · rw [form, List.takeWhile_cons_of_neg (by simp [marker]), List.append_nil]

/-- A significand with digits has another text than the bare point. -/
lemma text_ne_point {s : Significand} (hasDigits : s.HasDigits) : s.text ≠ ['.'] := by
  obtain ⟨sign, whole, fraction⟩ := s
  intro point
  cases sign with
  | some sign => cases sign <;> exact absurd (List.cons.inj point).1 (by decide)
  | none =>
    cases whole with
    | cons digit whole => exact digitChar_ne_point digit (List.cons.inj point).1
    | nil =>
      obtain ⟨digits, rfl, nonempty⟩ := Significand.exists_fraction hasDigits
      exact nonempty (List.map_eq_nil_iff.1 (List.cons.inj point).2)

/-- The mantissa of a literal is not the bare point exactly if the literal has digits. -/
lemma mantissa_ne_point_iff (literal : Literal) :
    mantissa literal.text ≠ ['.'] ↔ literal.significand.HasDigits := by
  rw [mantissa_text]
  constructor
  · intro notPoint
    refine literal.wellFormed.resolve_right fun bare => notPoint ?_
    rw [bare]
    rfl
  · exact text_ne_point

/-! ## Signs in front of literals -/

/-- A float with a sign in front of it. -/
def applySign : Sign → Float → Float
  | .plus, x => x
  | .minus, x => -x

/-- The sign in front of a text and the text behind it can be told from the whole. -/
lemma signText_append_inj {sign other : Sign} {rest rest' : List Char}
    (h : signText (some sign) ++ rest = signText (some other) ++ rest') :
    sign = other ∧ rest = rest' := by
  cases sign <;> cases other <;> simp_all [signText]

namespace Literal

/-- A literal with a sign put in place of its own. -/
def withSign (literal : Literal) (sign : Sign) (digits : literal.significand.HasDigits) :
    Literal :=
  ⟨{ literal.significand with sign := some sign }, literal.ending, .inl digits⟩

/-- The sign stands in front of a literal that had none. -/
lemma text_withSign {literal : Literal} (unsigned : literal.significand.sign = none) (sign : Sign)
    (digits : literal.significand.HasDigits) :
    (literal.withSign sign digits).text = signText (some sign) ++ literal.text := by
  rw [text, text, Significand.text, Significand.text, unsigned]
  exact List.append_assoc _ _ _

/-- What a literal without a sign denotes gets the sign that is put in front of the literal. -/
lemma Denotes.withSign {literal : Literal} {x : Float} (h : literal.Denotes x)
    (unsigned : literal.significand.sign = none) (sign : Sign)
    (digits : literal.significand.HasDigits) :
    (literal.withSign sign digits).Denotes (applySign sign x) := by
  have positive : Binary64.isNegative x = false := by
    rw [h.sign, isNegative, unsigned]
    rfl
  have number := h.nearest.isNumber
  cases sign with
  | plus => exact ⟨positive, h.nearest⟩
  | minus =>
    refine ⟨?_, ?_⟩
    · rw [applySign, isNegative_neg number, positive]
      rfl
    · rw [applySign, pattern_neg number]
      exact h.nearest

/-- A literal has no sign exactly if it starts with none. -/
lemma sign_eq_none_iff {literal : Literal} :
    literal.significand.sign = none ↔ ∀ c ∈ literal.text.head?, c ≠ '+' ∧ c ≠ '-' := by
  obtain ⟨⟨sign, whole, fraction⟩, ending, wellFormed⟩ := literal
  cases sign with
  | some sign =>
    refine iff_of_false (Option.some_ne_none _) fun noSign => ?_
    cases sign with
    | plus => exact (noSign '+' rfl).1 rfl
    | minus => exact (noSign '-' rfl).2 rfl
  | none =>
    refine iff_of_true rfl fun c here => ?_
    rcases wellFormed with digits | bare
    · obtain ⟨first, tail, start, digitOrPoint⟩ := start_unsignedText digits ending.text
      obtain rfl : first = c := Option.some.inj ((congrArg List.head? start).symm.trans here)
      rcases digitOrPoint with digit | rfl
      · exact not_sign_of_isDigit digit
      · decide
    · cases bare
      cases here
      decide

/-- A literal whose text starts with a sign comes from one without a sign. -/
lemma exists_withSign {literal : Literal} {sign : Sign} {rest : List Char}
    (h : literal.text = signText (some sign) ++ rest) :
    ∃ (unsigned : Literal) (digits : unsigned.significand.HasDigits),
      unsigned.significand.sign = none ∧ rest = unsigned.text ∧
        literal = unsigned.withSign sign digits := by
  by_cases none : literal.significand.sign = none
  · have first := sign_eq_none_iff.1 none
    rw [h] at first
    cases sign with
    | plus => exact absurd rfl (first '+' rfl).1
    | minus => exact absurd rfl (first '-' rfl).2
  · obtain ⟨⟨own, whole, fraction⟩, ending, digits | bare⟩ := literal
    · obtain ⟨own, rfl⟩ := Option.ne_none_iff_exists'.1 none
      rw [text, Significand.text, List.append_assoc] at h
      obtain ⟨rfl, rfl⟩ := signText_append_inj h
      exact ⟨⟨⟨.none, whole, fraction⟩, ending, .inl digits⟩, digits, rfl, rfl, rfl⟩
    · exact absurd (congrArg Significand.sign bare) none

end Literal

/-! ## Reading behind a sign -/

namespace IsUnsigned

variable {source : String}

/-- There are no blanks to take away. -/
lemma trimBlank_eq (h : IsUnsigned source) : Text.trimBlank source.toList = source.toList :=
  Text.trimBlank_of_ends h.noLeadingBlank h.noTrailingBlank

/-- There are none behind a sign either. -/
lemma trimBlank_signed (h : IsUnsigned source) (sign : Sign) :
    Text.trimBlank (signText (some sign) ++ source.toList) =
      signText (some sign) ++ source.toList := by
  refine Text.trimBlank_of_ends (fun c first => ?_) fun c last => ?_
  · cases sign <;> cases first <;> decide
  · rw [List.getLast?_append_of_ne_nil _ h.nonempty] at last
    exact h.noTrailingBlank c last

end IsUnsigned

/-- What is read from a text behind a sign is what is read from the text, with the sign, unless
there is nothing but a point before the exponent.

**Proof sketch.** A literal that starts with the sign is one without it and with digits that the
sign is put in front of.  The literals with digits are those whose mantissa is not the bare
point. -/
theorem number_signed_iff {source : String} (h : IsUnsigned source) (sign : Sign) {y : Float} :
    number (signText (some sign) ++ source.toList) = .ok y ↔
      ∃ x, number source.toList = .ok x ∧ mantissa source.toList ≠ ['.'] ∧
        y = applySign sign x := by
  rw [number_eq_ok_iff, h.trimBlank_signed]
  constructor
  · rintro ⟨literal, text, denotes⟩
    obtain ⟨unsigned, digits, noSign, same, rfl⟩ := Literal.exists_withSign text.symm
    refine ⟨unsigned.float, ?_, ?_, ?_⟩
    · exact number_text (by rw [h.trimBlank_eq, same])
    · rw [same]
      exact (mantissa_ne_point_iff unsigned).2 digits
    · exact denotes.unique (unsigned.denotes_float.withSign noSign sign digits)
  · rintro ⟨x, read, notPoint, rfl⟩
    obtain ⟨literal, text, denotes⟩ := number_eq_ok_iff.1 read
    rw [h.trimBlank_eq] at text
    rw [text] at notPoint
    have digits := (mantissa_ne_point_iff literal).1 notPoint
    have noSign : literal.significand.sign = none := Literal.sign_eq_none_iff.2 (text ▸ h.noSign)
    exact ⟨literal.withSign sign digits, by rw [text, Literal.text_withSign noSign],
      denotes.withSign noSign sign digits⟩

/-- The text of a sign. -/
def symbol : Sign → String
  | .plus => "+"
  | .minus => "-"

variable {source : String}

/-- What is read from a text with a sign in front of it. -/
lemma read_signed_iff (h : IsUnsigned source) (sign : Sign) {y : Float} :
    read (symbol sign ++ source) = .ok y ↔
      ∃ x, read source = .ok x ∧ mantissa source.toList ≠ ['.'] ∧ y = applySign sign x := by
  have chars : (symbol sign ++ source).toList = signText (some sign) ++ source.toList := by
    rw [String.toList_append]
    cases sign <;> rfl
  simp only [read_eq_ok_iff, chars, number_signed_iff h sign]

/-- A text with a sign in front of it is accepted if the text is and is no bare point. -/
lemma accepted_signed_iff (h : IsUnsigned source) (sign : Sign) :
    (∃ y, read (symbol sign ++ source) = .ok y) ↔
      (∃ x, read source = .ok x) ∧ mantissa source.toList ≠ ['.'] := by
  simp only [read_signed_iff h sign]
  constructor
  · rintro ⟨y, x, ok, notPoint, -⟩
    exact ⟨⟨x, ok⟩, notPoint⟩
  · rintro ⟨⟨x, ok⟩, notPoint⟩
    exact ⟨_, x, ok, notPoint, rfl⟩

/-- A bare point with a sign in front of it is rejected. -/
lemma rejected_signed (h : IsUnsigned source) (point : mantissa source.toList = ['.'])
    (sign : Sign) :
    ∃ fault, read (symbol sign ++ source) =
      .error (.invalidNumber (symbol sign ++ source) fault) := by
  rw [exists_fault_iff, accepted_signed_iff h sign]
  exact fun accepted => accepted.2 point

/-- The bare point stands for zero. -/
lemma value_barePoint : barePoint.value = 0 := by
  rw [Significand.value]
  exact zero_add _ |>.trans (zero_div _)

/-- What is read from a text whose mantissa is the bare point is zero. -/
lemma eq_zero_of_point {source : String} (h : IsUnsigned source) {x : Float}
    (ok : read source = .ok x) (point : mantissa source.toList = ['.']) : x = 0 := by
  obtain ⟨literal, text, denotes⟩ := number_eq_ok_iff.1 (read_eq_ok_iff.1 ok)
  rw [h.trimBlank_eq] at text
  rw [text] at point
  have bare : literal.significand = barePoint :=
    literal.wellFormed.resolve_left fun digits => (mantissa_ne_point_iff literal).2 digits point
  have zero : literal.Denotes 0 := by
    refine ⟨?_, ?_⟩
    · rw [Literal.isNegative, bare]
      rfl
    · rw [Literal.magnitude, bare, value_barePoint, zero_mul]
      exact Decimal.isNearest_zero (by positivity)
  exact denotes.unique zero

/-! ## Agreement of signs -/

/-- Whether a text is read alike with either sign in front of it and without. -/
structure SignsAgree (source : String) : Prop where
  /-- It is accepted behind a minus exactly if it is without. -/
  minus_iff : (∃ x, read ("-" ++ source) = .ok x) ↔ ∃ x, read source = .ok x
  /-- It is accepted behind a plus exactly if it is without. -/
  plus_iff : (∃ x, read source = .ok x) ↔ ∃ x, read ("+" ++ source) = .ok x
  /-- The minus negates the number, and the plus keeps it. -/
  values : ∀ x, read source = .ok x →
    read ("-" ++ source) = .ok (-x) ∧ read ("+" ++ source) = .ok x

/-- Signs agree on a text that is no bare point. -/
lemma signsAgree_of_not_point (h : IsUnsigned source) (notPoint : mantissa source.toList ≠ ['.']) :
    SignsAgree source where
  minus_iff := (accepted_signed_iff h .minus).trans (and_iff_left notPoint)
  plus_iff := ((accepted_signed_iff h .plus).trans (and_iff_left notPoint)).symm
  values x ok := ⟨(read_signed_iff h .minus).2 ⟨x, ok, notPoint, rfl⟩,
    (read_signed_iff h .plus).2 ⟨x, ok, notPoint, rfl⟩⟩

/-- Signs agree on a text that is rejected. -/
lemma signsAgree_of_rejected (h : IsUnsigned source) (rejected : ¬∃ x, read source = .ok x) :
    SignsAgree source where
  minus_iff := (accepted_signed_iff h .minus).trans (by simp only [rejected, false_and])
  plus_iff := ((accepted_signed_iff h .plus).trans (by simp only [rejected, false_and])).symm
  values x ok := absurd ⟨x, ok⟩ rejected

/-- **Signs of number literals.**  Let a text be given that is not empty, has no blank at either end
and starts with no sign.  It is read alike with either sign in front of it and without, unless it is
accepted and has nothing but a point before the exponent.  Such a text is read as zero, and with a
sign in front of it is rejected. -/
theorem signsAgree_iff_not_point (h : IsUnsigned source) :
    (SignsAgree source ↔
      ¬((∃ x, read source = .ok x) ∧ mantissa source.toList = ['.'])) ∧
    (mantissa source.toList = ['.'] →
      (∀ x, read source = .ok x → x = 0) ∧
      (∃ fault, read ("-" ++ source) = .error (.invalidNumber ("-" ++ source) fault)) ∧
      ∃ fault, read ("+" ++ source) = .error (.invalidNumber ("+" ++ source) fault)) := by
  refine ⟨⟨?_, fun notBoth => ?_⟩, fun point => ?_⟩
  · rintro agree ⟨accepted, point⟩
    exact ((accepted_signed_iff h .plus).1 (agree.plus_iff.1 accepted)).2 point
  · by_cases point : mantissa source.toList = ['.']
    · exact signsAgree_of_rejected h fun accepted => notBoth ⟨accepted, point⟩
    · exact signsAgree_of_not_point h point
  · exact ⟨fun x ok => eq_zero_of_point h ok point, rejected_signed h point .minus,
      rejected_signed h point .plus⟩

/-! ### A fraction and a point -/

/-- One half, without a zero before the point and with an exponent that has no digits, is read alike
with either sign and without. -/
theorem signsAgree_iff_not_point_half :
    IsUnsigned ".5e" ∧ (∃ x, read ".5e" = .ok x) ∧ SignsAgree ".5e" := by
  have unsigned : IsUnsigned ".5e" :=
    ⟨by decide, by rintro c ⟨⟩; decide, by rintro c ⟨⟩; decide, by rintro c ⟨⟩; decide⟩
  refine ⟨unsigned, ?_, (signsAgree_iff_not_point unsigned).1.2 fun both => ?_⟩
  · have digits : Significand.HasDigits ⟨none, [], some [5]⟩ := .inr (List.cons_ne_nil _ _)
    exact accepted_iff.2 ⟨⟨_, .dangling .small .nothing, .inl digits⟩, by rfl⟩
  · exact absurd both.2 (by decide)

/-- The bare point is read as zero, and rejected with a sign in front of it. -/
theorem signs_differ_on_point :
    IsUnsigned "." ∧ read "." = .ok 0 ∧
      read "-." = .error (.invalidNumber "-." .notDecimal) ∧
      read "+." = .error (.invalidNumber "+." .notDecimal) ∧ ¬SignsAgree "." := by
  have plus : read "+." = .error (.invalidNumber "+." .notDecimal) := by rfl
  have accepted : read "." = .ok 0 := by rfl
  have unsigned : IsUnsigned "." :=
    ⟨by decide, by rintro c ⟨⟩; decide, by rintro c ⟨⟩; decide, by rintro c ⟨⟩; decide⟩
  refine ⟨unsigned, accepted, by rfl, plus, fun agree => ?_⟩
  have both : read ("+" ++ ".") = .ok 0 := (agree.values 0 accepted).2
  cases plus.symm.trans both

end NumberLiteral

end MultiDispatch
