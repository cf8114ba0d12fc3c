import MultiDispatch.Proofs.LiteralGrammar
import MultiDispatch.Numeric.Types
import MultiDispatch.Tagged

set_option autoImplicit false
set_option relaxedAutoImplicit false

/-!
# Why texts are no literals

A text that is no number literal is reported with one of four reasons.  The reader finds the reason
on a copy of the text without blanks, in lower case, with a leading point completed, and without an
unfinished exponent if there is one.  None of these changes shifts a text from one reason to
another: the reason can be told from the text as it was given.

## Main definitions

* `MultiDispatch.NumberLiteral.IsBlankText`, `HasTwoMarkers`, `HasStrayCharacter` — what may be
  wrong with a text.
* `MultiDispatch.NumberLiteral.IsReason` — being the reason for which a text is rejected.

## Main results

* `MultiDispatch.NumberLiteral.isReason_of_number` — the reason found by the reader can be
  told from the text.
* `MultiDispatch.NumberLiteral.rejected_for_reason` — rejected texts are reported with the reason,
  also by the type of numbers.
-/

namespace MultiDispatch

namespace NumberLiteral

open Numeral

/-! ## What may be wrong with a text -/

/-- Whether a text has nothing but blanks. -/
def IsBlankText (text : List Char) : Prop := ∀ c ∈ text, Text.isBlank c = true

/-- Whether a text without the blanks around it has two markers of exponents or more. -/
def HasTwoMarkers (text : List Char) : Prop := 2 ≤ (Text.trimBlank text).countP isMarker

/-- Whether a text without the blanks around it has a character that no literal has. -/
def HasStrayCharacter (text : List Char) : Prop := ∃ c ∈ Text.trimBlank text, ¬IsGrammarChar c

/-! ## What the changes to a text keep -/

/-- Completing a point adds a zero at most. -/
lemma completePoint_eq_or (text : List Char) :
    completePoint text = text ∨ completePoint text = '0' :: text := by
  rw [completePoint.eq_def]
  split
  · exact .inr rfl
  · exact .inl rfl

/-- The small markers of what is made of a text are the markers of the text. -/
lemma count_normalize (text : List Char) :
    (normalize text).count 'e' = (Text.trimBlank text).countP isMarker := by
  have lower : ((Text.trimBlank text).map Char.toLower).count 'e' =
      (Text.trimBlank text).countP isMarker := by
    rw [List.count, List.countP_map]
    refine List.countP_congr fun c _ => ?_
    simp [← toLower_eq_marker_iff]
  rw [normalize, ← lower]
  rcases completePoint_eq_or ((Text.trimBlank text).map Char.toLower) with same | added
  · rw [same]
  · rw [added, List.count_cons_of_ne (by decide)]

/-- What is made of a text has only characters that the reader admits exactly if the text has only
those of literals. -/
lemma all_normalize_iff (text : List Char) :
    (∀ c ∈ normalize text, isLiteralChar c = true) ↔ ¬HasStrayCharacter text := by
  have lower : (∀ c ∈ (Text.trimBlank text).map Char.toLower, isLiteralChar c = true) ↔
      ¬HasStrayCharacter text := by
    simp only [List.forall_mem_map, isLiteralChar_toLower_iff, HasStrayCharacter, not_exists,
      not_and, not_not]
  rw [normalize, ← lower]
  rcases completePoint_eq_or ((Text.trimBlank text).map Char.toLower) with same | added
  · rw [same]
  · have zero : isLiteralChar '0' = true := rfl
    rw [added, List.forall_mem_cons]
    exact and_iff_right zero

/-- A text has no numeral exactly if it has two small markers or more. -/
lemma numeral_eq_error_iff {text : List Char} {fault : LiteralFault} :
    numeral text = .error fault ↔ fault = .repeatedExponent ∧ 2 ≤ text.count 'e' := by
  by_cases there : 'e' ∈ text
  · obtain ⟨front, exponent, rfl, before⟩ := List.eq_append_cons_of_mem there
    have markers : (front ++ 'e' :: exponent).count 'e' = exponent.count 'e' + 1 := by
      rw [List.count_append, List.count_eq_zero_of_not_mem before, List.count_cons_self, zero_add]
    have second : exponent.contains 'e' = true ↔ 1 ≤ exponent.count 'e' := by
      rw [List.contains_iff_mem, Nat.one_le_iff_ne_zero, ← Nat.pos_iff_ne_zero, List.count_pos_iff]
    rw [numeral_of_marker before, markers]
    by_cases twice : exponent.contains 'e' = true
    · rw [if_pos twice]
      have := second.1 twice
      simp [eq_comm, this]
    · rw [if_neg twice]
      have := mt second.2 twice
      split <;> simp [this]
  · rw [numeral_of_not_mem there, List.count_eq_zero_of_not_mem there]
    simp

/-- Of what is made of a text, the reader looks at all characters or leaves out an unfinished
exponent, which has only characters that it admits. -/
lemma all_isLiteralChar_iff {text digits : List Char} (found : numeral text = .ok digits) :
    digits.all isLiteralChar = true ↔ ∀ c ∈ text, isLiteralChar c = true := by
  rw [List.all_eq_true]
  rcases eq_of_numeral found with rfl | ⟨-, rest, rfl⟩
  · rfl
  · have unfinished : ∀ c ∈ 'e' :: rest.text, isLiteralChar c = true := by
      intro c there
      rcases List.mem_cons.1 there with rfl | signs
      · decide
      · rcases Unfinished.mem_text signs with rfl | rfl <;> decide
    rw [List.forall_mem_append]
    exact (and_iff_left unfinished).symm

/-! ## Reasons -/

/-- The reason for which a text is rejected is the first of the defects that it has; without any it
is that the text is no numeral. -/
def IsReason (text : List Char) : LiteralFault → Prop
  | .empty => IsBlankText text
  | .repeatedExponent => ¬IsBlankText text ∧ HasTwoMarkers text
  | .strayCharacter => ¬IsBlankText text ∧ ¬HasTwoMarkers text ∧ HasStrayCharacter text
  | .notDecimal => ¬IsBlankText text ∧ ¬HasTwoMarkers text ∧ ¬HasStrayCharacter text

/-- A text is rejected for the reason that can be told from it. -/
theorem isReason_of_number {text : List Char} {reason : LiteralFault}
    (rejected : number text = .error reason) : IsReason text reason := by
  rw [number] at rejected
  split at rejected
  · next blank =>
    cases rejected
    exact Text.trimBlank_eq_nil_iff.1 (List.isEmpty_iff.1 blank)
  · next notEmpty =>
    have notBlank : ¬IsBlankText text := fun blank =>
      notEmpty (List.isEmpty_iff.2 (Text.trimBlank_eq_nil_iff.2 blank))
    split at rejected
    · next fault found =>
      obtain ⟨rfl, markers⟩ := numeral_eq_error_iff.1 found
      cases rejected
      rw [count_normalize] at markers
      exact ⟨notBlank, markers⟩
    · next digits found =>
      have oneMarker : ¬HasTwoMarkers text := fun markers => by
        rw [HasTwoMarkers, ← count_normalize] at markers
        have refused := numeral_eq_error_iff.2 ⟨rfl, markers⟩
        rw [found] at refused
        cases refused
      split at rejected
      · next admitted =>
        have noStray := (all_normalize_iff text).1 ((all_isLiteralChar_iff found).1 admitted)
        split at rejected <;> cases rejected
        exact ⟨notBlank, oneMarker, noStray⟩
      · next refused =>
        cases rejected
        refine ⟨notBlank, oneMarker, not_not.1 fun noStray => refused ?_⟩
        exact (all_isLiteralChar_iff found).2 ((all_normalize_iff text).2 noStray)

/-- How the wording of a reason tells what is wrong with a text. -/
structure ReportedAs (text : List Char) (wording : String) : Prop where
  /-- There is nothing but blanks. -/
  empty_iff : wording = "empty literal" ↔ IsBlankText text
  /-- There are several markers. -/
  markers_iff : wording = "more than one exponent" ↔ ¬IsBlankText text ∧ HasTwoMarkers text
  /-- There is a character that no literal has. -/
  stray_iff : wording = "unexpected character" ↔
    ¬IsBlankText text ∧ ¬HasTwoMarkers text ∧ HasStrayCharacter text
  /-- There is nothing of this kind. -/
  notDecimal_iff : wording = "not a decimal number" ↔
    ¬IsBlankText text ∧ ¬HasTwoMarkers text ∧ ¬HasStrayCharacter text

/-- Each reason has a wording of its own. -/
lemma IsReason.reportedAs {text : List Char} {reason : LiteralFault} (h : IsReason text reason) :
    ReportedAs text reason.reason := by
  cases reason with
  | empty =>
    have blank : IsBlankText text := h
    constructor <;> simp [LiteralFault.reason, blank]
  | repeatedExponent =>
    obtain ⟨notBlank, markers⟩ := h
    constructor <;> simp [LiteralFault.reason, notBlank, markers]
  | strayCharacter =>
    obtain ⟨notBlank, oneMarker, stray⟩ := h
    constructor <;> simp [LiteralFault.reason, notBlank, oneMarker, stray]
  | notDecimal =>
    obtain ⟨notBlank, oneMarker, noStray⟩ := h
    constructor <;> simp [LiteralFault.reason, notBlank, oneMarker, noStray]

variable {υ : Role → Type} [Interprets υ (NumericRule υ)]

/-- **Reasons of rejected texts.**  A text that is rejected as a number literal is reported as it
was given and from its first byte to its last, with one of four wordings.  Which one it is can be
told from the text: it has nothing but blanks; or else, blanks around it not counted, two markers
of exponents or more; or else a character that no literal has; or else none of these.  The type of
numbers fails with the same fault, both where it reads a payload and where it makes a value. -/
theorem rejected_for_reason {source : String} {fault : ReadingFault}
    (rejected : read source = .error fault) :
    ∃ reason : LiteralFault, fault = .invalidNumber source reason ∧
      ReportedAs source.toList reason.reason ∧
      fault.diagnostic.labels = [⟨reason.reason, 0, source.utf8ByteSize⟩] ∧
      fault.diagnostic.source = some source ∧
      ∀ options : List (Param (NumericRule υ)),
        Numeric.number.parse source options = .error (.reading fault) ∧
        Numeric.number.ofLiteral source options = .error (.reading fault) := by
  have parsed : ∀ options : List (Param (NumericRule υ)),
      Numeric.number.parse source options =
        ((read source).map Payload.number).mapError TypeFault.reading := fun _ => rfl
  have parse_fails : ∀ options : List (Param (NumericRule υ)),
      Numeric.number.parse source options = .error (.reading fault) := fun options => by
    rw [parsed, rejected]
    rfl
  obtain ⟨reason, failed, rfl⟩ := read_eq_error_iff.1 rejected
  refine ⟨reason, rfl, (isReason_of_number failed).reportedAs, rfl, rfl, fun options => ?_⟩
  refine ⟨parse_fails options, ?_⟩
  rw [TypeNode.ofLiteral, parse_fails]
  rfl

/-! ### A sharp s in a literal -/

/-- A text with blanks around it, a marker and a letter of two bytes is rejected for the letter,
and all of its eight bytes are reported. -/
theorem rejected_for_reason_sharpS :
    read " .5ßE1 " = .error (.invalidNumber " .5ßE1 " .strayCharacter) ∧
    HasStrayCharacter " .5ßE1 ".toList ∧ ¬HasTwoMarkers " .5ßE1 ".toList ∧
    (ReadingFault.invalidNumber " .5ßE1 " .strayCharacter).diagnostic.labels =
      [⟨"unexpected character", 0, 8⟩] := by
  have rejected : read " .5ßE1 " = .error (.invalidNumber " .5ßE1 " .strayCharacter) := by rfl
  obtain ⟨reason, same, reported, labels, -⟩ :=
    rejected_for_reason (υ := fun _ => Empty) rejected
  cases same
  obtain ⟨-, oneMarker, stray⟩ := reported.stray_iff.1 rfl
  exact ⟨rejected, stray, oneMarker, labels⟩

end NumberLiteral

end MultiDispatch
