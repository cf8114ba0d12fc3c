import Mathlib
import MultiDispatch.Proofs.Rounding
import MultiDispatch.Decimal.Numeral

set_option autoImplicit false
set_option relaxedAutoImplicit false

/-!
# The grammar of numerals

The texts that are read as floats are told by a grammar: a sign that may be left out, digits with
at most one point among them and at least one digit on either side of it, and an exponent that may
be left out; or one of a few names behind the sign.  The number that a numeral denotes is given by
its parts.

## Main definitions

* `MultiDispatch.Numeral.Significand`, `MultiDispatch.Numeral.Exponent` — the parts of a numeral,
  their texts and what they stand for.

## Main results

* `MultiDispatch.Numeral.Significand.value_decimal` — the decimal number that is read off the
  parts has the value that they stand for.
* `MultiDispatch.Numeral.ofUnsigned?_eq_some_iff`, `MultiDispatch.Numeral.read_eq_ok_iff` — what is
  read are exactly the texts of the grammar.
-/

namespace MultiDispatch

/-! ## Splitting -/

section Splitting

variable {p : Char → Bool} {front back : List Char}

/-- A text is split behind the characters that satisfy a test if the next one does not. -/
lemma span_append (all : ∀ c ∈ front, p c = true) (stop : ∀ c ∈ back.head?, p c = false) :
    (front ++ back).span p = (front, back) := by
  rw [List.span_eq_takeWhile_dropWhile, List.takeWhile_append_of_pos all,
    List.dropWhile_append_of_pos all]
  cases back with
  | nil => rw [List.takeWhile_nil, List.dropWhile_nil, List.append_nil]
  | cons c rest =>
    have no : ¬p c = true := by rw [stop c rfl]; exact Bool.false_ne_true
    rw [List.takeWhile_cons_of_neg no, List.dropWhile_cons_of_neg no, List.append_nil]

/-- What a text is split into: characters that satisfy the test, and a rest that starts with none.
-/
lemma span_spec (p : Char → Bool) (text : List Char) :
    text = (text.span p).1 ++ (text.span p).2 ∧ (∀ c ∈ (text.span p).1, p c = true) ∧
      ∀ c ∈ (text.span p).2.head?, p c = false := by
  rw [List.span_eq_takeWhile_dropWhile]
  refine ⟨List.takeWhile_append_dropWhile.symm, List.all_eq_true.1 List.all_takeWhile, ?_⟩
  intro c first
  have stop := List.head?_dropWhile_not p text
  rw [first] at stop
  exact stop

end Splitting

/-! ## Lower case -/

/-- A character is its own lower case, or it is a capital letter. -/
lemma toLower_eq_or (c : Char) :
    c.toLower = c ∨ 65 ≤ c.toNat ∧ c.toNat ≤ 90 ∧ c.toLower.toNat = c.toNat + 32 := by
  rw [Char.toLower]
  split
  · next capital =>
    obtain ⟨low, high⟩ := capital
    have low : 65 ≤ c.toNat := low
    have high : c.toNat ≤ 90 := high
    refine .inr ⟨low, high, ?_⟩
    exact Nat.mod_eq_of_lt (show c.toNat + 32 < _ by omega)
  · exact .inl rfl

/-- Only letters are the lower case of other characters. -/
lemma eq_of_toLower_eq {c d : Char} (h : c.toLower = d) (notLetter : d.toNat < 97) : c = d := by
  rcases toLower_eq_or c with same | ⟨low, _, shifted⟩
  · rw [← same, h]
  · rw [h] at shifted
    omega

/-- Characters before the capital letters are their own lower case. -/
lemma toLower_eq_self {c : Char} (h : c.toNat < 65) : c.toLower = c := by
  rcases toLower_eq_or c with same | ⟨low, _, _⟩
  · exact same
  · omega

namespace Numeral

open Decimal

/-! ## Digits and signs -/

/-- A decimal digit. -/
abbrev Digit := Fin 10

/-- The character of a digit. -/
def digitChar (digit : Digit) : Char := Nat.digitChar digit

/-- The text of digits. -/
def digitsText (digits : List Digit) : List Char := digits.map digitChar

/-- The number that digits stand for, the leading one first. -/
def number (digits : List Digit) : ℕ := Nat.ofDigits 10 (digits.reverse.map Fin.val)

/-- A sign. -/
inductive Sign
  /-- The sign of a positive number. -/
  | plus
  /-- The sign of a negative number. -/
  | minus
deriving DecidableEq

/-- The text of a sign that may be left out. -/
def signText : Option Sign → List Char
  | none => []
  | some .plus => ['+']
  | some .minus => ['-']

/-- Whether a sign, which may be left out, is a minus. -/
def isMinus (sign : Option Sign) : Bool := sign = some .minus

/-- The code points of digits follow that of zero. -/
lemma toNat_digitChar (digit : Digit) : (digitChar digit).toNat = '0'.toNat + digit := by
  revert digit
  decide

/-- The characters of digits are digits. -/
lemma isDigit_digitChar (digit : Digit) : (digitChar digit).isDigit = true := by
  revert digit
  decide

/-- Digits stand before the letters. -/
lemma toNat_lt_of_isDigit {c : Char} (h : c.isDigit = true) : c.toNat < 65 :=
  Nat.lt_of_le_of_lt (Char.isDigit_iff_toNat.1 h).2 (by decide)

/-- Only digits have characters that are digits. -/
lemma exists_digitChar {c : Char} (h : c.isDigit = true) : ∃ digit, digitChar digit = c := by
  obtain ⟨low, high⟩ := Char.isDigit_iff_toNat.1 h
  have bound : c.toNat - '0'.toNat < 10 := Nat.lt_succ_of_le (Nat.sub_le_sub_right high _)
  refine ⟨⟨c.toNat - '0'.toNat, bound⟩, Char.toNat_inj.1 ?_⟩
  rw [toNat_digitChar]
  exact Nat.add_sub_of_le low

/-- A text of digits only is the text of digits. -/
lemma exists_digitsText {text : List Char} (h : ∀ c ∈ text, c.isDigit = true) :
    ∃ digits, text = digitsText digits := by
  induction text with
  | nil => exact ⟨[], rfl⟩
  | cons c rest ih =>
    obtain ⟨digit, rfl⟩ := exists_digitChar (h c List.mem_cons_self)
    obtain ⟨digits, rfl⟩ := ih fun d there => h d (List.mem_cons_of_mem _ there)
    exact ⟨digit :: digits, rfl⟩

/-- The text of digits holds digits only. -/
lemma isDigit_of_mem_digitsText {digits : List Digit} {c : Char} (h : c ∈ digitsText digits) :
    c.isDigit = true := by
  obtain ⟨digit, _, rfl⟩ := List.mem_map.1 h
  exact isDigit_digitChar digit

/-- The text of digits that follow others is that of both. -/
lemma digitsText_append (front back : List Digit) :
    digitsText (front ++ back) = digitsText front ++ digitsText back := List.map_append

/-- The text of digits has one character for each. -/
lemma length_digitsText (digits : List Digit) : (digitsText digits).length = digits.length :=
  List.length_map _

/-- A further digit counts ones and the digits before it tens. -/
lemma number_append_singleton (digits : List Digit) (digit : Digit) :
    number (digits ++ [digit]) = 10 * number digits + digit := by
  rw [number, List.reverse_append, List.reverse_singleton, List.singleton_append, List.map_cons,
    Nat.ofDigits_cons, number, add_comm]

/-- Digits that follow shift the ones before them. -/
lemma number_append (front back : List Digit) :
    number (front ++ back) = number front * 10 ^ back.length + number back := by
  rw [number, List.reverse_append, List.map_append, Nat.ofDigits_append, List.length_map,
    List.length_reverse, number, number]
  exact (add_comm _ _).trans (congrArg (· + _) (mul_comm _ _))

/-- The number read off the text of digits is the one that they stand for. -/
lemma wholeNumber_digitsText (digits : List Digit) :
    wholeNumber (digitsText digits) = number digits := by
  induction digits using List.reverseRec with
  | nil => rfl
  | append_singleton digits digit ih =>
    have value : (digitChar digit).toNat - '0'.toNat = digit := by
      rw [toNat_digitChar, Nat.add_sub_cancel_left]
    rw [number_append_singleton, ← ih, wholeNumber, digitsText, List.map_append, List.foldl_append,
      List.map_singleton, List.foldl_cons, List.foldl_nil, value]
    rfl

/-! ## Numerals -/

/-- The text of a point and the digits behind it, which may both be left out. -/
def fractionText : Option (List Digit) → List Char
  | none => []
  | some digits => '.' :: digitsText digits

/-- A numeral up to its exponent: digits with at most one point among them and a sign before
them. -/
structure Significand where
  /-- The sign. -/
  sign : Option Sign
  /-- The digits before the point. -/
  whole : List Digit
  /-- The digits behind the point, if there is a point. -/
  fraction : Option (List Digit)

namespace Significand

/-- The digits behind the point. -/
def places (s : Significand) : List Digit := s.fraction.getD []

/-- Whether there is a digit on either side of the point. -/
def HasDigits (s : Significand) : Prop := s.whole ≠ [] ∨ s.places ≠ []

/-- The text without the sign. -/
def unsignedText (s : Significand) : List Char := digitsText s.whole ++ fractionText s.fraction

/-- The text. -/
def text (s : Significand) : List Char := signText s.sign ++ s.unsignedText

/-- The number that the digits stand for, without the sign. -/
def value (s : Significand) : ℚ := number s.whole + number s.places / 10 ^ s.places.length

/-- The decimal number of the digits with an exponent. -/
def decimal (s : Significand) (exponent : ℤ) : Decimal :=
  ⟨number (s.whole ++ s.places), exponent - s.places.length⟩

/-- Without digits before the point there is a point with digits behind it. -/
lemma exists_fraction {sign : Option Sign} {fraction : Option (List Digit)}
    (h : HasDigits ⟨sign, [], fraction⟩) : ∃ digits, fraction = some digits ∧ digits ≠ [] := by
  rcases h with whole | places
  · exact absurd rfl whole
  · cases fraction with
    | none => exact absurd rfl places
    | some digits => exact ⟨digits, rfl, places⟩

/-- Its value is that of the digits, shifted by the exponent. -/
lemma value_decimal (s : Significand) (exponent : ℤ) :
    (s.decimal exponent).value = s.value * 10 ^ exponent := by
  rw [decimal, Decimal.value, value, number_append, zpow_sub₀ (by norm_num), zpow_natCast]
  push_cast
  field_simp

end Significand

/-- A letter in front of an exponent. -/
inductive Marker
  /-- The small letter. -/
  | small
  /-- The capital letter. -/
  | capital
deriving DecidableEq

/-- The character of a marker. -/
def Marker.char : Marker → Char
  | small => 'e'
  | capital => 'E'

/-- An exponent: a marker, a sign that may be left out, and digits. -/
structure Exponent where
  /-- The letter in front. -/
  marker : Marker
  /-- The sign. -/
  sign : Option Sign
  /-- The digits. -/
  digits : List Digit
  /-- There is at least one digit. -/
  nonempty : digits ≠ []

namespace Exponent

/-- The text. -/
def text (exponent : Exponent) : List Char :=
  exponent.marker.char :: (signText exponent.sign ++ digitsText exponent.digits)

/-- The number. -/
def value (exponent : Exponent) : ℤ :=
  if isMinus exponent.sign then -number exponent.digits else number exponent.digits

end Exponent

/-- The text of an exponent that may be left out. -/
def exponentText : Option Exponent → List Char
  | none => []
  | some exponent => exponent.text

/-- The number of an exponent; none counts as zero. -/
def exponentValue : Option Exponent → ℤ
  | none => 0
  | some exponent => exponent.value

/-- The two markers. -/
lemma Marker.char_eq_or (marker : Marker) : marker.char = 'e' ∨ marker.char = 'E' := by
  cases marker
  · exact .inl rfl
  · exact .inr rfl

/-- A digit is no sign. -/
lemma not_sign_of_isDigit {c : Char} (h : c.isDigit = true) : c ≠ '+' ∧ c ≠ '-' := by
  constructor <;>
  · rintro rfl
    cases h

/-- A sign is split off what starts with none. -/
lemma splitSign_append (sign : Option Sign) {rest : List Char}
    (h : ∀ c ∈ rest.head?, c ≠ '+' ∧ c ≠ '-') :
    splitSign (signText sign ++ rest) = (isMinus sign, rest) := by
  cases sign with
  | some sign => cases sign <;> rfl
  | none =>
    cases rest with
    | nil => rfl
    | cons c rest =>
      obtain ⟨noPlus, noMinus⟩ := h c rfl
      simp [signText, splitSign, noPlus, noMinus, isMinus]

/-- What a sign is split off is a sign and the rest. -/
lemma exists_splitSign (text : List Char) :
    ∃ sign, text = signText sign ++ (splitSign text).2 ∧ (splitSign text).1 = isMinus sign := by
  rw [splitSign.eq_def]
  split
  · exact ⟨some .minus, rfl, rfl⟩
  · exact ⟨some .plus, rfl, rfl⟩
  · exact ⟨none, rfl, rfl⟩

/-- The texts of exponents, that of none included. -/
lemma exponent?_eq_some_iff {text : List Char} {e : ℤ} :
    exponent? text = some e ↔
      ∃ exponent : Option Exponent, text = exponentText exponent ∧ e = exponentValue exponent := by
  constructor
  · intro h
    cases text with
    | nil => exact ⟨none, rfl, (Option.some.inj h).symm⟩
    | cons marker text =>
      obtain ⟨sign, whole, minus⟩ := exists_splitSign text
      simp only [exponent?] at h
      split at h
      · next form =>
        obtain ⟨isMarker, nonempty, allDigits⟩ := form
        obtain ⟨digits, same⟩ := exists_digitsText (List.all_eq_true.1 allDigits)
        obtain ⟨marker, rfl⟩ : ∃ m : Marker, marker = m.char :=
          isMarker.elim (fun h => ⟨.small, h⟩) fun h => ⟨.capital, h⟩
        rw [same] at whole nonempty h
        refine ⟨some ⟨marker, sign, digits, fun empty => nonempty ?_⟩, ?_, ?_⟩
        · rw [empty]; rfl
        · rw [whole]; rfl
        · rw [minus, wholeNumber_digitsText] at h
          exact (Option.some.inj h).symm
      · cases h
  · rintro ⟨exponent, rfl, rfl⟩
    cases exponent with
    | none => rfl
    | some exponent =>
      obtain ⟨marker, sign, digits, nonempty⟩ := exponent
      have start : ∀ c ∈ (digitsText digits).head?, c ≠ '+' ∧ c ≠ '-' := fun c first =>
        not_sign_of_isDigit (isDigit_of_mem_digitsText (List.mem_of_mem_head? first))
      have form : (marker.char = 'e' ∨ marker.char = 'E') ∧ digitsText digits ≠ [] ∧
          (digitsText digits).all Char.isDigit = true :=
        ⟨marker.char_eq_or, mt List.map_eq_nil_iff.1 nonempty,
          List.all_eq_true.2 fun c there => isDigit_of_mem_digitsText there⟩
      simp only [exponentText, Exponent.text, exponent?, splitSign_append sign start, if_pos form,
        wholeNumber_digitsText, exponentValue, Exponent.value]

/-- An exponent starts with a marker. -/
lemma start_exponentText {exponent : Option Exponent} :
    ∀ c ∈ (exponentText exponent).head?, c = 'e' ∨ c = 'E' := by
  intro c first
  cases exponent with
  | none => cases first
  | some exponent =>
    rw [← Option.some.inj first]
    exact exponent.marker.char_eq_or

/-- Digits are split off what starts with none. -/
lemma span_digitsText_append (digits : List Digit) {rest : List Char}
    (h : ∀ c ∈ rest.head?, c.isDigit = false) :
    (digitsText digits ++ rest).span Char.isDigit = (digitsText digits, rest) :=
  span_append (fun _ there => isDigit_of_mem_digitsText there) h

/-- A fraction is split off what starts with neither a point nor a digit. -/
lemma splitFraction_append (fraction : Option (List Digit)) {rest : List Char}
    (h : ∀ c ∈ rest.head?, c ≠ '.' ∧ c.isDigit = false) :
    splitFraction (fractionText fraction ++ rest) = (digitsText (fraction.getD []), rest) := by
  cases fraction with
  | some digits => exact span_digitsText_append digits fun c first => (h c first).2
  | none =>
    cases rest with
    | nil => rfl
    | cons c rest => simp [fractionText, splitFraction, (h c rfl).1, digitsText]

/-- What a fraction is split off is a fraction and the rest. -/
lemma exists_splitFraction (text : List Char) :
    ∃ fraction, text = fractionText fraction ++ (splitFraction text).2 ∧
      (splitFraction text).1 = digitsText (fraction.getD []) := by
  rw [splitFraction.eq_def]
  split
  · next rest =>
    obtain ⟨whole, all, -⟩ := span_spec Char.isDigit rest
    obtain ⟨digits, same⟩ := exists_digitsText all
    refine ⟨some digits, ?_, same⟩
    rw [fractionText, ← same, List.cons_append, ← whole]
  · exact ⟨none, rfl, rfl⟩

/-- The decimal number of a significand as it is read off its text. -/
lemma decimal_eq (s : Significand) (e : ℤ) :
    s.decimal e = ⟨wholeNumber (digitsText s.whole ++ digitsText s.places),
      e - (digitsText s.places).length⟩ := by
  rw [Significand.decimal, ← digitsText_append, length_digitsText, wholeNumber_digitsText]

/-- The numerals of digits: a significand with a digit, and maybe an exponent. -/
lemma ofUnsigned?_eq_some_iff {text : List Char} {d : Decimal} :
    ofUnsigned? text = some d ↔ ∃ (s : Significand) (exponent : Option Exponent),
      s.HasDigits ∧ text = s.unsignedText ++ exponentText exponent ∧
        d = s.decimal (exponentValue exponent) := by
  constructor
  · intro h
    obtain ⟨beforePoint, all, -⟩ := span_spec Char.isDigit text
    obtain ⟨whole, sameWhole⟩ := exists_digitsText all
    obtain ⟨fraction, behindWhole, sameFraction⟩ :=
      exists_splitFraction (text.span Char.isDigit).2
    simp only [ofUnsigned?, sameWhole, sameFraction] at h
    split at h
    · cases h
    · next someDigit =>
      obtain ⟨e, read, rfl⟩ := Option.map_eq_some_iff.1 h
      obtain ⟨exponent, behindFraction, rfl⟩ := exponent?_eq_some_iff.1 read
      refine ⟨⟨none, whole, fraction⟩, exponent, ?_, ?_, ?_⟩
      · by_contra noDigits
        rw [Significand.HasDigits, not_or, not_not, not_not] at noDigits
        exact someDigit ⟨congrArg digitsText noDigits.1, congrArg digitsText noDigits.2⟩
      · rw [Significand.unsignedText, List.append_assoc, ← behindFraction, ← behindWhole,
          ← sameWhole, ← beforePoint]
      · exact (decimal_eq ⟨none, whole, fraction⟩ _).symm
  · rintro ⟨⟨sign, whole, fraction⟩, exponent, hasDigits, rfl, rfl⟩
    have afterFraction : ∀ c ∈ (exponentText exponent).head?, c ≠ '.' ∧ c.isDigit = false := by
      intro c first
      rcases start_exponentText c first with rfl | rfl <;> decide
    have afterWhole : ∀ c ∈ (fractionText fraction ++ exponentText exponent).head?,
        c.isDigit = false := by
      cases fraction with
      | none => exact fun c first => (afterFraction c first).2
      | some digits =>
        intro c first
        rw [← Option.some.inj first]
        rfl
    have someDigit : ¬(digitsText whole = [] ∧ digitsText (fraction.getD []) = []) := by
      rintro ⟨noWhole, noFraction⟩
      exact hasDigits.elim (· (List.map_eq_nil_iff.1 noWhole))
        (· (List.map_eq_nil_iff.1 noFraction))
    have read := exponent?_eq_some_iff.2 ⟨exponent, rfl, rfl⟩
    simp only [Significand.unsignedText, List.append_assoc, ofUnsigned?,
      span_digitsText_append whole afterWhole, splitFraction_append fraction afterFraction,
      if_neg someDigit, read, Option.map_some]
    exact congrArg some (decimal_eq ⟨sign, whole, fraction⟩ _).symm

/-- A numeral of digits starts with a digit or a point. -/
lemma start_unsignedText {s : Significand} (hasDigits : s.HasDigits) (rest : List Char) :
    ∃ c tail, s.unsignedText ++ rest = c :: tail ∧ (c.isDigit = true ∨ c = '.') := by
  obtain ⟨sign, whole, fraction⟩ := s
  cases whole with
  | cons digit whole => exact ⟨digitChar digit, _, rfl, .inl (isDigit_digitChar digit)⟩
  | nil =>
    obtain ⟨digits, rfl, -⟩ := Significand.exists_fraction hasDigits
    exact ⟨'.', _, rfl, .inr rfl⟩

/-! ## Names -/

/-- A name starts with one of two letters. -/
lemma start_of_namedPattern? {word : List Char} {bits : ℕ} (h : namedPattern? word = some bits) :
    ∃ c rest, word = c :: rest ∧ (c.toLower = 'i' ∨ c.toLower = 'n') := by
  have letters : word.map Char.toLower = "inf".toList ∨ word.map Char.toLower = "infinity".toList ∨
      word.map Char.toLower = "nan".toList := by
    rw [namedPattern?] at h
    split at h
    · next infinite => exact infinite.imp_right .inl
    · split at h
      · next notNumber => exact .inr (.inr notNumber)
      · cases h
  cases word with
  | nil => simp at letters
  | cons c rest =>
    refine ⟨c, rest, rfl, ?_⟩
    rcases letters with h | h | h
    · exact .inl (List.cons.inj h).1
    · exact .inl (List.cons.inj h).1
    · exact .inr (List.cons.inj h).1

/-- A character that may start a numeral of digits, or a sign, starts no name. -/
lemma not_start_of_name {c : Char} (h : c.toNat < 65) : ¬(c.toLower = 'i' ∨ c.toLower = 'n') := by
  rw [toLower_eq_self h]
  rintro (rfl | rfl) <;> exact absurd h (by decide)

/-- No name is a numeral of digits. -/
lemma ofUnsigned?_of_namedPattern? {word : List Char} {bits : ℕ}
    (named : namedPattern? word = some bits) : ofUnsigned? word = none := by
  obtain ⟨c, rest, rfl, letter⟩ := start_of_namedPattern? named
  by_contra digits
  obtain ⟨d, unsigned⟩ := Option.ne_none_iff_exists'.1 digits
  obtain ⟨s, exponent, hasDigits, form, -⟩ := ofUnsigned?_eq_some_iff.1 unsigned
  obtain ⟨_, tail, start, digitOrPoint⟩ := start_unsignedText hasDigits (exponentText exponent)
  obtain ⟨rfl, -⟩ := List.cons.inj (form.trans start)
  refine not_start_of_name ?_ letter
  rcases digitOrPoint with digit | rfl
  · exact toNat_lt_of_isDigit digit
  · decide

/-- The unsigned texts of floats: numerals of digits and names. -/
lemma pattern?_eq_some_iff {text : List Char} {bits : ℕ} :
    pattern? text = some bits ↔
      (∃ (s : Significand) (exponent : Option Exponent), s.HasDigits ∧
        text = s.unsignedText ++ exponentText exponent ∧
        bits = (s.decimal (exponentValue exponent)).nearest) ∨ namedPattern? text = some bits := by
  rw [pattern?]
  constructor
  · intro h
    split at h
    · next d unsigned =>
      obtain ⟨s, exponent, hasDigits, form, rfl⟩ := ofUnsigned?_eq_some_iff.1 unsigned
      exact .inl ⟨s, exponent, hasDigits, form, (Option.some.inj h).symm⟩
    · exact .inr h
  · rintro (⟨s, exponent, hasDigits, form, rfl⟩ | named)
    · rw [ofUnsigned?_eq_some_iff.2 ⟨s, exponent, hasDigits, form, rfl⟩]
    · rw [ofUnsigned?_of_namedPattern? named]
      exact named

/-! ## Signs -/

/-- The unsigned text of a float starts with no sign. -/
lemma start_of_pattern? {text : List Char} {bits : ℕ} (h : pattern? text = some bits) :
    ∃ c rest, text = c :: rest ∧ c ≠ '+' ∧ c ≠ '-' := by
  rcases pattern?_eq_some_iff.1 h with ⟨s, exponent, hasDigits, rfl, -⟩ | named
  · obtain ⟨c, tail, form, digit | rfl⟩ := start_unsignedText hasDigits (exponentText exponent)
    · exact ⟨c, tail, form, not_sign_of_isDigit digit⟩
    · exact ⟨'.', tail, form, by decide⟩
  · obtain ⟨c, rest, rfl, letter⟩ := start_of_namedPattern? named
    refine ⟨c, rest, rfl, ?_⟩
    constructor <;>
    · rintro rfl
      exact not_start_of_name (by decide) letter

/-- A float is read as a sign, which may be left out, and what follows it. -/
lemma read_eq_ok_iff_pattern? {text : List Char} {x : Float} :
    read text = .ok x ↔ ∃ sign unsigned bits, pattern? unsigned = some bits ∧
      text = signText sign ++ unsigned ∧ x = Binary64.ofParts (isMinus sign) bits := by
  constructor
  · intro h
    obtain ⟨sign, split, minus⟩ := exists_splitSign text
    simp only [read] at h
    split at h
    · cases h
    · cases found : pattern? (splitSign text).2 with
      | none => simp [found] at h
      | some bits =>
        simp only [found, minus, Except.ok.injEq] at h
        exact ⟨sign, _, bits, found, split, h.symm⟩
  · rintro ⟨sign, unsigned, bits, found, rfl, rfl⟩
    obtain ⟨c, rest, rfl, notSign⟩ := start_of_pattern? found
    have nonempty : (signText sign ++ c :: rest).isEmpty = false := by
      cases h : signText sign <;> rfl
    have start : ∀ d ∈ (c :: rest).head?, d ≠ '+' ∧ d ≠ '-' := fun d first =>
      Option.some.inj first ▸ notSign
    have split := splitSign_append sign start
    simp only [read, nonempty, Bool.false_eq_true, if_false, split, found]

/-- The texts of floats: numerals of digits, and names, with a sign or without one. -/
theorem read_eq_ok_iff {text : List Char} {x : Float} :
    read text = .ok x ↔
      (∃ (s : Significand) (exponent : Option Exponent), s.HasDigits ∧
        text = s.text ++ exponentText exponent ∧
        x = Binary64.ofParts (isMinus s.sign) (s.decimal (exponentValue exponent)).nearest) ∨
      ∃ sign word bits, namedPattern? word = some bits ∧ text = signText sign ++ word ∧
        x = Binary64.ofParts (isMinus sign) bits := by
  rw [read_eq_ok_iff_pattern?]
  constructor
  · rintro ⟨sign, unsigned, bits, found, rfl, rfl⟩
    rcases pattern?_eq_some_iff.1 found with ⟨s, exponent, hasDigits, rfl, rfl⟩ | named
    · refine .inl ⟨⟨sign, s.whole, s.fraction⟩, exponent, hasDigits, ?_, rfl⟩
      rw [Significand.text, List.append_assoc]
      rfl
    · exact .inr ⟨sign, unsigned, bits, named, rfl, rfl⟩
  · rintro (⟨s, exponent, hasDigits, rfl, rfl⟩ | ⟨sign, word, bits, named, rfl, rfl⟩)
    · have found := pattern?_eq_some_iff.2 (.inl ⟨s, exponent, hasDigits, rfl, rfl⟩)
      refine ⟨s.sign, _, _, found, ?_, rfl⟩
      rw [Significand.text, List.append_assoc]
    · exact ⟨sign, word, bits, pattern?_eq_some_iff.2 (.inr named), rfl, rfl⟩

end Numeral

end MultiDispatch
