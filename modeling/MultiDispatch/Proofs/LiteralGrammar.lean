import MultiDispatch.Proofs.FloatParts
import MultiDispatch.Proofs.NumeralGrammar
import MultiDispatch.Numeric.Literal

set_option autoImplicit false
set_option relaxedAutoImplicit false

/-!
# The language of number literals

A number literal is a significand with a digit on either side of the point, or the bare point,
followed by an exponent, by the beginning of one that has no digits, or by nothing.  Exactly the
texts of literals, with blanks around them, are read, and the result is the float nearest to the
number that the literal denotes.

## Main definitions

* `MultiDispatch.NumberLiteral.Literal` — literals, their texts and what they denote.
* `MultiDispatch.NumberLiteral.Literal.Denotes` — being the float of a literal.

## Main results

* `MultiDispatch.NumberLiteral.number_text` — the text of a literal is read.
* `MultiDispatch.NumberLiteral.exists_literal` — what is read is the text of a literal.
* `MultiDispatch.NumberLiteral.read_exactly_literals` — the language and its meaning.
-/

namespace MultiDispatch

namespace NumberLiteral

open Numeral Binary64

/-! ## Literals -/

/-- What an exponent that was begun may have behind its marker. -/
inductive Unfinished
  /-- Nothing. -/
  | nothing
  /-- A plus. -/
  | plus
  /-- A minus. -/
  | minus
  /-- A plus and a minus. -/
  | plusMinus

/-- The text of what stands behind the marker of an unfinished exponent. -/
def Unfinished.text : Unfinished → List Char
  | nothing => []
  | plus => ['+']
  | minus => ['-']
  | plusMinus => ['+', '-']

/-- An unfinished exponent has nothing but signs behind its marker. -/
lemma Unfinished.mem_text {rest : Unfinished} {c : Char} (h : c ∈ rest.text) :
    c = '+' ∨ c = '-' := by
  cases rest with
  | nothing => cases h
  | plus => exact .inl (List.mem_singleton.1 h)
  | minus => exact .inr (List.mem_singleton.1 h)
  | plusMinus => exact (List.mem_cons.1 h).imp_right List.mem_singleton.1

/-- What stands behind the significand of a literal. -/
inductive Ending
  /-- Nothing. -/
  | absent
  /-- An exponent. -/
  | written (exponent : Exponent)
  /-- The marker of an exponent without its digits. -/
  | dangling (marker : Marker) (rest : Unfinished)

namespace Ending

/-- The text. -/
def text : Ending → List Char
  | absent => []
  | written exponent => exponent.text
  | dangling marker rest => marker.char :: rest.text

/-- The exponent; one without digits counts as none. -/
def exponent? : Ending → Option Exponent
  | written exponent => some exponent
  | absent | dangling _ _ => none

/-- The ending with a small marker. -/
def lower : Ending → Ending
  | absent => absent
  | written exponent => written { exponent with marker := .small }
  | dangling _ rest => dangling .small rest

/-- The number of the exponent. -/
def value (ending : Ending) : ℤ := exponentValue ending.exponent?

end Ending

/-- The significand that is a point without digits and without a sign. -/
def barePoint : Significand := ⟨none, [], some []⟩

/-- A number literal. -/
structure Literal where
  /-- What stands before the exponent. -/
  significand : Significand
  /-- The exponent. -/
  ending : Ending
  /-- There are digits, or there is nothing but a point. -/
  wellFormed : significand.HasDigits ∨ significand = barePoint

namespace Literal

/-- The text. -/
def text (literal : Literal) : List Char := literal.significand.text ++ literal.ending.text

/-- Whether the number has a minus. -/
def isNegative (literal : Literal) : Bool := isMinus literal.significand.sign

/-- The absolute value of the number that the literal stands for. -/
def magnitude (literal : Literal) : ℚ := literal.significand.value * 10 ^ literal.ending.value

/-- A float is what a literal denotes if it has the sign of the literal and is nearest to it. -/
structure Denotes (literal : Literal) (x : Float) : Prop where
  /-- The sign is that of the literal, also for zero. -/
  sign : Binary64.isNegative x = literal.isNegative
  /-- The absolute value is rounded correctly. -/
  nearest : IsNearest literal.magnitude (pattern x)

/-- A literal denotes one float. -/
theorem Denotes.unique {literal : Literal} {x y : Float} (hx : literal.Denotes x)
    (hy : literal.Denotes y) : x = y := by
  rw [← ofParts_parts x, ← ofParts_parts y, hx.sign, hy.sign, hx.nearest.unique hy.nearest]

end Literal

/-! ## Completing a point -/

/-- The significand with a zero in front of a leading point. -/
def complete (s : Significand) : Significand :=
  if s.sign = none ∧ s.whole = [] then { s with whole := [0] } else s

/-- Completing keeps the sign. -/
lemma sign_complete (s : Significand) : (complete s).sign = s.sign := by
  rw [complete]
  split <;> rfl

/-- Completing keeps the value. -/
lemma value_complete (s : Significand) : (complete s).value = s.value := by
  rw [complete]
  split
  · next leading =>
    simp only [Significand.value, leading.2]
    rfl
  · rfl

/-- A completed significand has a digit. -/
lemma hasDigits_complete {s : Significand} (wellFormed : s.HasDigits ∨ s = barePoint) :
    (complete s).HasDigits := by
  rw [complete]
  split
  · exact .inl (List.cons_ne_nil _ _)
  · next notLeading =>
    rcases wellFormed with digits | rfl
    · exact digits
    · exact absurd ⟨rfl, rfl⟩ notLeading

/-- A digit is no point. -/
lemma digitChar_ne_point (digit : Digit) : digitChar digit ≠ '.' := by
  intro h
  have := isDigit_digitChar digit
  rw [h] at this
  cases this

/-- A text that starts with no point is not completed. -/
lemma completePoint_cons {c : Char} (h : c ≠ '.') (rest : List Char) :
    completePoint (c :: rest) = c :: rest := by
  rw [completePoint.eq_def]
  split
  · next same => exact absurd (List.cons.inj same).1 h
  · rfl

/-- Completing the text of a significand is completing the significand. -/
lemma completePoint_text {s : Significand} (wellFormed : s.HasDigits ∨ s = barePoint)
    (rest : List Char) : completePoint (s.text ++ rest) = (complete s).text ++ rest := by
  obtain ⟨sign, whole, fraction⟩ := s
  cases sign with
  | some sign => cases sign <;> rfl
  | none =>
    cases whole with
    | cons digit whole => exact completePoint_cons (digitChar_ne_point digit) _
    | nil =>
      obtain ⟨digits, rfl⟩ : ∃ digits, fraction = some digits := by
        rcases wellFormed with hasDigits | bare
        · exact (Significand.exists_fraction hasDigits).imp fun _ h => h.1
        · exact ⟨[], (Significand.mk.inj bare).2.2⟩
      rfl

/-- An ending starts with a marker. -/
lemma Ending.start {ending : Ending} {c : Char} {rest : List Char} (h : ending.text = c :: rest) :
    c = 'e' ∨ c = 'E' := by
  cases ending with
  | absent => cases h
  | written exponent =>
    rw [← (List.cons.inj h).1]
    exact exponent.marker.char_eq_or
  | dangling marker unfinished =>
    rw [← (List.cons.inj h).1]
    exact marker.char_eq_or

/-- If a zero is followed by a point, it is all that stands before the point, because a point is
no digit and starts no ending. -/
lemma exists_of_zero_point {rest : List Char} {s : Significand} {ending : Ending}
    (hasDigits : s.HasDigits) (h : '0' :: '.' :: rest = s.text ++ ending.text) :
    ∃ digits, '.' :: rest = (Significand.mk none [] (some digits)).text ++ ending.text := by
  obtain ⟨sign, whole, fraction⟩ := s
  have noSign : sign = none := by
    cases sign with
    | none => rfl
    | some sign => cases sign <;> exact absurd (List.cons.inj h).1 (by decide)
  subst noSign
  cases whole with
  | nil =>
    obtain ⟨digits, rfl, -⟩ := Significand.exists_fraction hasDigits
    exact absurd (List.cons.inj h).1 (by decide)
  | cons zero whole =>
    have behind : '.' :: rest = (digitsText whole ++ fractionText fraction) ++ ending.text :=
      (List.cons.inj h).2
    cases whole with
    | cons digit whole => exact absurd (List.cons.inj behind).1.symm (digitChar_ne_point digit)
    | nil =>
      cases fraction with
      | none => rcases Ending.start behind.symm with marker | marker <;> cases marker
      | some digits => exact ⟨digits, behind⟩

/-- What is completed to a numeral is a significand itself: without the zero if it starts with a
point, and otherwise as it is. -/
lemma exists_of_completePoint {text : List Char} {s : Significand} {ending : Ending}
    (hasDigits : s.HasDigits) (h : completePoint text = s.text ++ ending.text) :
    ∃ given, (given.HasDigits ∨ given = barePoint) ∧ text = given.text ++ ending.text := by
  by_cases leading : ∃ rest, text = '.' :: rest
  · obtain ⟨rest, rfl⟩ := leading
    obtain ⟨digits, same⟩ := exists_of_zero_point hasDigits h
    refine ⟨_, ?_, same⟩
    by_cases empty : digits = []
    · exact .inr (by rw [empty]; rfl)
    · exact .inl (.inr empty)
  · have same : completePoint text = text := by
      cases text with
      | nil => rfl
      | cons c rest => exact completePoint_cons (fun h => leading ⟨rest, h ▸ rfl⟩) rest
    rw [same] at h
    exact ⟨s, .inl hasDigits, h⟩

/-! ## Lower case -/

/-- A significand is made of digits, a sign and a point. -/
lemma mem_text {s : Significand} {c : Char} (h : c ∈ s.text) :
    c.isDigit = true ∨ c = '.' ∨ c = '+' ∨ c = '-' := by
  obtain ⟨sign, whole, fraction⟩ := s
  rw [Significand.text, Significand.unsignedText, List.mem_append, List.mem_append] at h
  rcases h with inSign | inWhole | inFraction
  · cases sign with
    | none => cases inSign
    | some sign =>
      cases sign
      · exact .inr (.inr (.inl (List.mem_singleton.1 inSign)))
      · exact .inr (.inr (.inr (List.mem_singleton.1 inSign)))
  · exact .inl (isDigit_of_mem_digitsText inWhole)
  · cases fraction with
    | none => cases inFraction
    | some digits =>
      rcases List.mem_cons.1 inFraction with point | inDigits
      · exact .inr (.inl point)
      · exact .inl (isDigit_of_mem_digitsText inDigits)

/-- A significand has no letters. -/
lemma toNat_lt_of_mem_text {s : Significand} {c : Char} (h : c ∈ s.text) : c.toNat < 65 := by
  rcases mem_text h with digit | rfl | rfl | rfl
  · exact toNat_lt_of_isDigit digit
  all_goals decide

/-- Behind its marker an exponent looks like a significand without a point. -/
lemma exponent_text_eq (exponent : Exponent) :
    exponent.text =
      exponent.marker.char :: (Significand.mk exponent.sign exponent.digits none).text := by
  rw [Exponent.text, Significand.text, Significand.unsignedText, fractionText, List.append_nil]

/-- A significand is its own lower case. -/
lemma map_toLower_text (s : Significand) : s.text.map Char.toLower = s.text := by
  conv_rhs => rw [← List.map_id s.text]
  exact List.map_congr_left fun c there => toLower_eq_self (toNat_lt_of_mem_text there)

/-- A text whose lower case has no letters is its own lower case. -/
lemma eq_of_map_toLower {text back : List Char} (h : text.map Char.toLower = back)
    (small : ∀ c ∈ back, c.toNat < 97) : text = back := by
  have same : text.map Char.toLower = text.map id := List.map_congr_left fun c there =>
    (eq_of_toLower_eq rfl (small _ (h ▸ List.mem_map_of_mem there))).symm
  rw [← h, same, List.map_id]

/-- The lower case of an ending has a small marker. -/
lemma map_toLower_ending (ending : Ending) :
    ending.text.map Char.toLower = ending.lower.text := by
  have marker : ∀ m : Marker, m.char.toLower = 'e' := by
    intro m
    cases m <;> rfl
  cases ending with
  | absent => rfl
  | written exponent =>
    rw [Ending.text, Ending.lower, Ending.text, exponent_text_eq, exponent_text_eq, List.map_cons,
      map_toLower_text, marker]
    rfl
  | dangling m rest =>
    rw [Ending.text, Ending.lower, Ending.text, List.map_cons, marker]
    cases rest <;> rfl

/-- Only markers have the lower case of a marker. -/
lemma exists_marker {c : Char} {m : Marker} (h : c.toLower = m.char) :
    ∃ given : Marker, c = given.char := by
  cases m with
  | capital => exact ⟨.capital, eq_of_toLower_eq h (by decide)⟩
  | small =>
    rcases toLower_eq_or c with same | ⟨_, _, shifted⟩
    · exact ⟨.small, same.symm.trans h⟩
    · refine ⟨.capital, Char.toNat_inj.1 ?_⟩
      rw [h] at shifted
      have : Marker.small.char.toNat = Marker.capital.char.toNat + 32 := rfl
      omega

/-- Only endings have the lower case of an ending. -/
lemma exists_of_map_toLower {text : List Char} {ending : Ending}
    (h : text.map Char.toLower = ending.text) :
    ∃ given : Ending, text = given.text := by
  cases ending with
  | absent => exact ⟨.absent, List.map_eq_nil_iff.1 h⟩
  | written exponent =>
    rw [Ending.text, exponent_text_eq] at h
    obtain ⟨c, tail, rfl, marker, behind⟩ := List.map_eq_cons_iff.1 h
    obtain ⟨given, rfl⟩ := exists_marker marker
    refine ⟨.written { exponent with marker := given }, ?_⟩
    rw [Ending.text, exponent_text_eq, ← eq_of_map_toLower behind fun c there => ?_]
    exact Nat.lt_trans (toNat_lt_of_mem_text there) (by decide)
  | dangling m rest =>
    obtain ⟨c, tail, rfl, marker, behind⟩ := List.map_eq_cons_iff.1 h
    obtain ⟨given, rfl⟩ := exists_marker marker
    refine ⟨.dangling given rest, ?_⟩
    rw [Ending.text, ← eq_of_map_toLower behind fun c there => ?_]
    rcases Unfinished.mem_text there with rfl | rfl <;> decide

/-! ## Dropping an unfinished exponent -/

/-- What may stand behind the marker of an unfinished exponent. -/
lemma mem_unfinished_iff {text : List Char} :
    text ∈ [[], ['+'], ['-'], ['+', '-']] ↔ ∃ rest : Unfinished, text = rest.text := by
  constructor
  · intro there
    simp only [List.mem_cons, List.not_mem_nil, or_false] at there
    rcases there with rfl | rfl | rfl | rfl
    · exact ⟨.nothing, rfl⟩
    · exact ⟨.plus, rfl⟩
    · exact ⟨.minus, rfl⟩
    · exact ⟨.plusMinus, rfl⟩
  · rintro ⟨rest, rfl⟩
    cases rest <;> decide

/-- The unfinished exponents. -/
lemma isDangling_iff {text : List Char} :
    isDangling text = true ↔ ∃ rest : Unfinished, text = rest.text := by
  rw [isDangling, List.contains_iff_mem, mem_unfinished_iff]

/-- Behind the marker of an exponent there is a digit, so it is not left unfinished. -/
lemma text_ne_unfinished (exponent : Exponent) (rest : Unfinished) :
    (Significand.mk exponent.sign exponent.digits none).text ≠ rest.text := by
  intro same
  obtain ⟨digit, there⟩ := List.exists_mem_of_ne_nil _ exponent.nonempty
  have inText : digitChar digit ∈ rest.text := by
    rw [← same, Significand.text, Significand.unsignedText, List.mem_append, List.mem_append]
    exact .inr (.inl (List.mem_map_of_mem there))
  have isDigit := isDigit_digitChar digit
  rcases Unfinished.mem_text inText with sign | sign <;> rw [sign] at isDigit <;> cases isDigit

/-- The test of the split is passed by every character of a text without markers. -/
lemma decide_of_not_mem {text : List Char} (h : 'e' ∉ text) :
    ∀ c ∈ text, decide (c ≠ 'e') = true := by
  intro c there
  rw [decide_eq_true_eq]
  rintro rfl
  exact h there

/-- A text without markers is kept. -/
lemma numeral_of_not_mem {text : List Char} (h : 'e' ∉ text) : numeral text = .ok text := by
  have stop : ∀ c ∈ ([] : List Char).head?, decide (c ≠ 'e') = false := fun c first => by
    cases first
  have split := span_append (decide_of_not_mem h) stop
  rw [List.append_nil] at split
  simp only [numeral, split]

/-- What becomes of a text with a marker. -/
lemma numeral_of_marker {front : List Char} (h : 'e' ∉ front) (exponent : List Char) :
    numeral (front ++ 'e' :: exponent) =
      if exponent.contains 'e' then .error .repeatedExponent
      else if isDangling exponent then .ok front else .ok (front ++ 'e' :: exponent) := by
  have stop : ∀ c ∈ ('e' :: exponent).head?, decide (c ≠ 'e') = false := fun c first => by
    rw [← Option.some.inj first]
    rfl
  simp only [numeral, span_append (decide_of_not_mem h) stop]

/-- A numeral is the text itself, or the text was a numeral without markers and an unfinished
exponent. -/
lemma eq_of_numeral {text digits : List Char} (h : numeral text = .ok digits) :
    text = digits ∨ 'e' ∉ digits ∧ ∃ rest : Unfinished, text = digits ++ 'e' :: rest.text := by
  by_cases there : 'e' ∈ text
  · obtain ⟨front, exponent, rfl, before⟩ := List.eq_append_cons_of_mem there
    rw [numeral_of_marker before] at h
    split at h
    · cases h
    · split at h
      · next dangling =>
        obtain ⟨rest, rfl⟩ := isDangling_iff.1 dangling
        cases h
        exact .inr ⟨before, rest, rfl⟩
      · cases h
        exact .inl rfl
  · rw [numeral_of_not_mem there] at h
    exact .inl (Except.ok.inj h)

/-- In lower case, an unfinished exponent is dropped and any other is kept. -/
lemma numeral_append (s : Significand) (ending : Ending) :
    numeral (s.text ++ ending.lower.text) =
      .ok (s.text ++ exponentText ending.lower.exponent?) := by
  have noMarker : ∀ {s : Significand}, 'e' ∉ s.text := fun there =>
    absurd (toNat_lt_of_mem_text there) (by decide)
  cases ending with
  | absent =>
    rw [Ending.lower, Ending.text, Ending.exponent?, exponentText, List.append_nil]
    exact numeral_of_not_mem noMarker
  | written exponent =>
    rw [Ending.lower, Ending.text, Ending.exponent?, exponentText, exponent_text_eq]
    refine (numeral_of_marker noMarker _).trans ?_
    rw [if_neg, if_neg]
    · rfl
    · rw [isDangling_iff]
      rintro ⟨rest, same⟩
      exact text_ne_unfinished exponent rest same
    · rw [List.contains_iff_mem]
      exact noMarker
  | dangling m rest =>
    rw [Ending.lower, Ending.text, Ending.exponent?, exponentText, List.append_nil]
    refine (numeral_of_marker noMarker _).trans ?_
    rw [if_neg, if_pos (isDangling_iff.2 ⟨rest, rfl⟩)]
    cases rest <;> decide

/-! ## Reading -/

/-- The characters of a significand are those of literals. -/
lemma isLiteralChar_of_mem_text {s : Significand} {c : Char} (h : c ∈ s.text) :
    isLiteralChar c = true := by
  rcases mem_text h with digit | rfl | rfl | rfl
  · simp [isLiteralChar, digit]
  all_goals decide

/-- The characters of a numeral with a small marker are those of literals. -/
lemma all_isLiteralChar (s : Significand) (ending : Ending) :
    (s.text ++ exponentText ending.lower.exponent?).all isLiteralChar = true := by
  rw [List.all_append, Bool.and_eq_true, List.all_eq_true, List.all_eq_true]
  refine ⟨fun c there => isLiteralChar_of_mem_text there, fun c there => ?_⟩
  cases ending with
  | absent => cases there
  | dangling m rest => cases there
  | written exponent =>
    rw [Ending.lower, Ending.exponent?, exponentText, exponent_text_eq] at there
    rcases List.mem_cons.1 there with rfl | behind
    · rfl
    · exact isLiteralChar_of_mem_text behind

/-- The number of a literal as it is computed. -/
def Literal.float (literal : Literal) : Float :=
  ofParts literal.isNegative ((complete literal.significand).decimal literal.ending.value).nearest

/-- It is the one that the literal denotes. -/
theorem Literal.denotes_float (literal : Literal) : literal.Denotes literal.float := by
  have near := Decimal.isNearest_nearest
    ((complete literal.significand).decimal literal.ending.value)
  refine ⟨isNegative_ofParts _ near.isNumber, ?_⟩
  rw [float, pattern_ofParts _ near.isNumber, magnitude, ← value_complete,
    ← Significand.value_decimal]
  exact near

/-- A literal has a text. -/
lemma Literal.text_ne_nil (literal : Literal) : literal.text ≠ [] := by
  obtain ⟨s, ending, digits | rfl⟩ := literal
  · obtain ⟨c, tail, start, -⟩ := start_unsignedText digits ending.text
    rw [text, Significand.text, List.append_assoc, start]
    exact List.append_ne_nil_of_right_ne_nil _ (List.cons_ne_nil _ _)
  · exact List.cons_ne_nil _ _

/-- The text of a literal, with blanks around it, is read as the number of the literal. -/
theorem number_text {text : List Char} {literal : Literal}
    (h : Text.trimBlank text = literal.text) : number text = .ok literal.float := by
  obtain ⟨s, ending, wellFormed⟩ := literal
  have notEmpty : (Text.trimBlank text).isEmpty = false := by
    rw [h, List.isEmpty_eq_false_iff]
    exact Literal.text_ne_nil _
  have normalized : normalize text = (complete s).text ++ ending.lower.text := by
    rw [normalize, h, Literal.text, List.map_append, map_toLower_text, map_toLower_ending,
      completePoint_text wellFormed]
  have read : Numeral.read ((complete s).text ++ exponentText ending.lower.exponent?) =
      .ok (Literal.float ⟨s, ending, wellFormed⟩) := by
    refine Numeral.read_eq_ok_iff.2 (.inl ⟨complete s, _, hasDigits_complete wellFormed, rfl, ?_⟩)
    rw [Literal.float, Literal.isNegative, sign_complete]
    cases ending <;> rfl
  simp only [number, notEmpty, Bool.false_eq_true, if_false, normalized, numeral_append,
    all_isLiteralChar, if_true, read]

/-- A numeral made of the characters of literals is one of digits. -/
lemma exists_significand {digits : List Char} {x : Float} (h : Numeral.read digits = .ok x)
    (all : digits.all isLiteralChar = true) :
    ∃ (s : Significand) (exponent : Option Exponent), s.HasDigits ∧
      digits = s.text ++ exponentText exponent := by
  rcases Numeral.read_eq_ok_iff.1 h with
    ⟨s, exponent, hasDigits, form, -⟩ | ⟨sign, word, bits, named, form, -⟩
  · exact ⟨s, exponent, hasDigits, form⟩
  · obtain ⟨c, rest, rfl, letter⟩ := start_of_namedPattern? named
    have inLiteral : isLiteralChar c = true :=
      List.all_eq_true.1 all c (by rw [form]; exact List.mem_append_right _ List.mem_cons_self)
    simp only [isLiteralChar, Bool.or_eq_true, decide_eq_true_eq] at inLiteral
    rcases inLiteral with (((digit | rfl) | rfl) | rfl) | rfl
    · exact absurd letter (not_start_of_name (toNat_lt_of_isDigit digit))
    all_goals exact absurd letter (by decide)

/-- What a numeral is made from by dropping an unfinished exponent is a numeral with an ending. -/
lemma exists_ending {text digits : List Char} {x : Float} (found : numeral text = .ok digits)
    (h : Numeral.read digits = .ok x) (all : digits.all isLiteralChar = true) :
    ∃ (s : Significand) (ending : Ending), s.HasDigits ∧ text = s.text ++ ending.text := by
  obtain ⟨s, exponent, hasDigits, form⟩ := exists_significand h all
  rcases eq_of_numeral found with same | ⟨noMarker, rest, same⟩
  · cases exponent with
    | none => exact ⟨s, .absent, hasDigits, same.trans form⟩
    | some exponent => exact ⟨s, .written exponent, hasDigits, same.trans form⟩
  · cases exponent with
    | none =>
      rw [exponentText, List.append_nil] at form
      exact ⟨s, .dangling .small rest, hasDigits, by rw [same, form]; rfl⟩
    | some exponent =>
      -- Its marker is small, since capital letters do not pass the test on characters, and so
      -- the split would have been made there.
      exfalso
      have there : exponent.marker.char ∈ digits := by
        rw [form]
        exact List.mem_append_right _ List.mem_cons_self
      cases marker : exponent.marker with
      | small =>
        rw [marker] at there
        exact noMarker there
      | capital =>
        rw [marker] at there
        exact absurd (List.all_eq_true.1 all _ there) (by decide)

/-- What is read is the text of a literal, with blanks around it. -/
theorem exists_literal {text : List Char} {x : Float} (h : number text = .ok x) :
    ∃ literal : Literal, Text.trimBlank text = literal.text := by
  rw [number] at h
  split at h
  · cases h
  · cases found : numeral (normalize text) with
    | error fault => simp [found] at h
    | ok digits =>
      simp only [found] at h
      split at h
      · next all =>
        cases read : Numeral.read digits with
        | error fault => simp [read] at h
        | ok y =>
          -- The steps of the reader are undone one by one, from the numeral back to the text.
          obtain ⟨s, ending, hasDigits, normalized⟩ := exists_ending found read all
          obtain ⟨given, wellFormed, lower⟩ := exists_of_completePoint hasDigits normalized
          obtain ⟨front, back, split, frontLower, backLower⟩ := List.map_eq_append_iff.1 lower
          obtain ⟨givenEnding, rfl⟩ := exists_of_map_toLower backLower
          refine ⟨⟨given, givenEnding, wellFormed⟩, ?_⟩
          rw [split, Literal.text, eq_of_map_toLower frontLower fun c there => ?_]
          exact Nat.lt_trans (toNat_lt_of_mem_text there) (by decide)
      · cases h

/-- The numbers of texts. -/
theorem number_eq_ok_iff {text : List Char} {x : Float} :
    number text = .ok x ↔
      ∃ literal : Literal, Text.trimBlank text = literal.text ∧ literal.Denotes x := by
  constructor
  · intro h
    obtain ⟨literal, same⟩ := exists_literal h
    rw [number_text same] at h
    exact ⟨literal, same, Except.ok.inj h ▸ literal.denotes_float⟩
  · rintro ⟨literal, same, denotes⟩
    rw [number_text same, literal.denotes_float.unique denotes]

/-! ## The language -/

/-- Whether a character is a marker of an exponent. -/
def isMarker (c : Char) : Bool := c = 'e' || c = 'E'

/-- The markers are the letter `e` in both cases. -/
lemma isMarker_iff {c : Char} : isMarker c = true ↔ c = 'e' ∨ c = 'E' := by
  rw [isMarker, Bool.or_eq_true, decide_eq_true_eq, decide_eq_true_eq]

/-- The markers of exponents are markers. -/
lemma isMarker_char (marker : Marker) : isMarker marker.char = true :=
  isMarker_iff.2 marker.char_eq_or

/-- Exactly the markers have the small marker for their lower case. -/
lemma toLower_eq_marker_iff {c : Char} : c.toLower = 'e' ↔ isMarker c = true := by
  constructor
  · intro h
    obtain ⟨marker, rfl⟩ := exists_marker (m := .small) h
    exact isMarker_char marker
  · intro h
    rcases isMarker_iff.1 h with rfl | rfl <;> rfl

/-- A character that literals may have: a digit, the point, a sign or a marker. -/
def IsGrammarChar (c : Char) : Prop :=
  c.isDigit = true ∨ c = '.' ∨ c = '+' ∨ c = '-' ∨ isMarker c = true
deriving Decidable

/-- Exactly the characters of literals have a lower case that the reader admits. -/
lemma isLiteralChar_toLower_iff {c : Char} :
    isLiteralChar c.toLower = true ↔ IsGrammarChar c := by
  simp only [isLiteralChar, IsGrammarChar, Bool.or_eq_true, decide_eq_true_eq,
    toLower_eq_marker_iff]
  constructor
  · -- All of these characters but the marker stand before the letters.
    rintro ((((digit | point) | marker) | plus) | minus)
    · rw [← eq_of_toLower_eq rfl (Nat.lt_trans (toNat_lt_of_isDigit digit) (by decide))] at digit
      exact .inl digit
    · exact .inr (.inl (eq_of_toLower_eq point (by decide)))
    · exact .inr (.inr (.inr (.inr marker)))
    · exact .inr (.inr (.inl (eq_of_toLower_eq plus (by decide))))
    · exact .inr (.inr (.inr (.inl (eq_of_toLower_eq minus (by decide)))))
  · rintro (digit | rfl | rfl | rfl | marker)
    · rw [toLower_eq_self (toNat_lt_of_isDigit digit)]
      simp [digit]
    · decide
    · decide
    · decide
    · simp [marker]

/-- The characters of significands are characters of literals, and none of them is a marker. -/
lemma isGrammarChar_of_mem_text {s : Significand} {c : Char} (h : c ∈ s.text) :
    IsGrammarChar c ∧ isMarker c = false := by
  have notMarker : isMarker c = false := by
    have small := toNat_lt_of_mem_text h
    refine Bool.eq_false_iff.2 fun marker => ?_
    rcases isMarker_iff.1 marker with rfl | rfl <;> exact absurd small (by decide)
  refine ⟨?_, notMarker⟩
  rcases mem_text h with digit | point | plus | minus
  · exact .inl digit
  · exact .inr (.inl point)
  · exact .inr (.inr (.inl plus))
  · exact .inr (.inr (.inr (.inl minus)))

/-- An ending is empty, or a marker with a text behind it that has the characters of literals and
no marker. -/
lemma Ending.text_cases (ending : Ending) :
    ending.text = [] ∨ ∃ c rest, ending.text = c :: rest ∧ isMarker c = true ∧
      ∀ d ∈ rest, IsGrammarChar d ∧ isMarker d = false := by
  cases ending with
  | absent => exact .inl rfl
  | written exponent =>
    refine .inr ⟨_, _, exponent_text_eq exponent, isMarker_char _, ?_⟩
    exact fun d there => isGrammarChar_of_mem_text there
  | dangling m rest =>
    refine .inr ⟨_, _, rfl, isMarker_char _, fun d there => ?_⟩
    rcases Unfinished.mem_text there with rfl | rfl <;> decide

/-- A literal is made of the characters of literals and has at most one marker. -/
lemma Literal.text_spec (literal : Literal) :
    (∀ c ∈ literal.text, IsGrammarChar c) ∧ literal.text.countP isMarker ≤ 1 := by
  have none : ∀ {text : List Char}, (∀ c ∈ text, IsGrammarChar c ∧ isMarker c = false) →
      text.countP isMarker = 0 := fun all =>
    List.countP_eq_zero.2 fun c there => Bool.not_eq_true _ ▸ (all c there).2
  have front : ∀ c ∈ literal.significand.text, IsGrammarChar c ∧ isMarker c = false :=
    fun c there => isGrammarChar_of_mem_text there
  rw [text, List.countP_append, none front, Nat.zero_add]
  rcases literal.ending.text_cases with empty | ⟨c, rest, form, marker, behind⟩
  · rw [empty, List.append_nil]
    exact ⟨fun c there => (front c there).1, Nat.zero_le _⟩
  · rw [form, List.countP_cons_of_pos marker, none behind]
    refine ⟨fun d there => ?_, le_rfl⟩
    rcases List.mem_append.1 there with inFront | atEnd
    · exact (front d inFront).1
    · rcases List.mem_cons.1 atEnd with rfl | inRest
      · exact .inr (.inr (.inr (.inr marker)))
      · exact (behind d inRest).1

/-- The number of a literal is that of its characters. -/
lemma read_eq_ok_iff {source : String} {x : Float} :
    read source = .ok x ↔ number source.toList = .ok x := by
  rw [read]
  cases number source.toList with
  | ok y => exact ⟨fun h => congrArg _ (Except.ok.inj h), fun h => congrArg _ (Except.ok.inj h)⟩
  | error fault =>
    constructor <;>
    · intro h
      cases h

/-- The fault of a text reports the text as it was given and the reason found in its characters. -/
lemma read_eq_error_iff {source : String} {fault : ReadingFault} :
    read source = .error fault ↔
      ∃ reason, number source.toList = .error reason ∧ fault = .invalidNumber source reason := by
  rw [read]
  cases number source.toList <;> simp [Except.mapError, eq_comm]

/-- A text is rejected if it is not read. -/
lemma exists_fault_iff {source : String} :
    (∃ fault, read source = .error (.invalidNumber source fault)) ↔ ¬∃ x, read source = .ok x := by
  simp only [read_eq_error_iff, read_eq_ok_iff]
  cases number source.toList <;> simp

/-- The texts of literals, with blanks around them, are accepted. -/
lemma accepted_iff {source : String} :
    (∃ x, read source = .ok x) ↔
      ∃ literal : Literal, Text.trimBlank source.toList = literal.text := by
  constructor
  · rintro ⟨x, h⟩
    exact exists_literal (read_eq_ok_iff.1 h)
  · rintro ⟨literal, same⟩
    exact ⟨literal.float, read_eq_ok_iff.2 (number_text same)⟩

/-- All other texts are rejected. -/
lemma rejected_iff {source : String} :
    (∃ fault, read source = .error (.invalidNumber source fault)) ↔
      ∀ literal : Literal, Text.trimBlank source.toList ≠ literal.text := by
  rw [exists_fault_iff, accepted_iff, not_exists]

/-- Texts with a character that no literal has, or with two markers, are rejected. -/
lemma rejected_of_stray {source : String}
    (stray : (∃ c ∈ Text.trimBlank source.toList, ¬IsGrammarChar c) ∨
      1 < (Text.trimBlank source.toList).countP isMarker) :
    ∃ fault, read source = .error (.invalidNumber source fault) := by
  refine rejected_iff.2 fun literal same => ?_
  obtain ⟨chars, markers⟩ := literal.text_spec
  rw [same] at stray
  rcases stray with ⟨c, there, strange⟩ | several
  · exact strange (chars c there)
  · omega

/-- **The language of number literals.**  A text is read as a number exactly if it is a literal with
blanks around it, and the number is the one that the literal denotes, correctly rounded and with
its sign.  Every other text is rejected; among these are all texts with a character between the
blanks that is not a digit, a point, a sign or a marker of an exponent, and all with two markers
there. -/
theorem read_exactly_literals (source : String) :
    (∀ x, read source = .ok x ↔
      ∃ literal : Literal, Text.IsCore literal.text source.toList ∧ literal.Denotes x) ∧
    ((∃ x, read source = .ok x) ↔
      ∃ literal : Literal, Text.IsCore literal.text source.toList) ∧
    ((∃ fault, read source = .error (.invalidNumber source fault)) ↔
      ∀ literal : Literal, ¬Text.IsCore literal.text source.toList) ∧
    (∀ core, Text.IsCore core source.toList →
      (∃ c ∈ core, ¬IsGrammarChar c) ∨ 1 < core.countP isMarker →
      ∃ fault, read source = .error (.invalidNumber source fault)) := by
  simp only [← Text.trimBlank_eq_iff]
  refine ⟨fun _ => read_eq_ok_iff.trans number_eq_ok_iff, accepted_iff, rejected_iff, ?_⟩
  rintro core rfl stray
  exact rejected_of_stray stray

end NumberLiteral

end MultiDispatch
