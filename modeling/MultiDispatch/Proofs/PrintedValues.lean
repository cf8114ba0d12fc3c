import MultiDispatch.Proofs.NumberRoundTrip
import MultiDispatch.Proofs.VectorTypes

set_option autoImplicit false
set_option relaxedAutoImplicit false

/-!
# Texts tell values apart

The text of a number is one of five forms: three words, a decimal with the point in its place, and
one with an exponent.  No two different numbers share a text, on whichever side of the limit between
the forms they lie, and the two zeros do share one.  The text of a vector joins the texts of its
items, none of which is empty or has a semicolon, so the items can be told from it.

## Main definitions

* `MultiDispatch.Numeric.IsVectorType` — a type was made by specializing vectors.

## Main results

* `MultiDispatch.eq_of_intercalate_eq` — what is joined can be told from the text.
* `MultiDispatch.Numeric.numberText_eq_iff` — numbers with the same text are numerically equal.
* `MultiDispatch.Numeric.printed_unambiguously` — the same for values that are numbers or vectors.
-/

namespace MultiDispatch

/-! ## Joined texts -/

section Joining

variable {c : Char} {rest : List Char}

/-- A text is split at the first separator in one way only. -/
lemma append_inj_of_separator {front front' back back' : List Char} (free : c ∉ front)
    (free' : c ∉ front') (stop : ∀ d ∈ back.head?, d = c) (stop' : ∀ d ∈ back'.head?, d = c)
    (h : front ++ back = front' ++ back') : front = front' ∧ back = back' := by
  have split : ∀ {front back : List Char}, c ∉ front → (∀ d ∈ back.head?, d = c) →
      (front ++ back).span (· ≠ c) = (front, back) := by
    intro front back free stop
    refine span_append (fun d there => decide_eq_true ?_) fun d first => ?_
    · rintro rfl
      exact free there
    · rw [stop d first]
      exact decide_eq_false (not_not.2 rfl)
  have both := split free stop
  rw [h, split free' stop'] at both
  exact ⟨(Prod.mk.inj both).1.symm, (Prod.mk.inj both).2.symm⟩

/-- Texts behind separators start with one. -/
lemma head?_flatMap_separated {texts : List (List Char)} :
    ∀ d ∈ (texts.flatMap (c :: rest ++ ·)).head?, d = c := by
  intro d first
  cases texts with
  | nil => cases first
  | cons text texts => exact (Option.some.inj first).symm

/-- Texts without separators can be told from what is made by putting a separator in front of
each. -/
lemma eq_of_flatMap_eq {texts texts' : List (List Char)} (free : ∀ text ∈ texts, c ∉ text)
    (free' : ∀ text ∈ texts', c ∉ text)
    (h : texts.flatMap (c :: rest ++ ·) = texts'.flatMap (c :: rest ++ ·)) : texts = texts' := by
  induction texts generalizing texts' with
  | nil =>
    cases texts' with
    | nil => rfl
    | cons text' texts' => cases h
  | cons text texts ih =>
    cases texts' with
    | nil => cases h
    | cons text' texts' =>
      rw [List.forall_mem_cons] at free free'
      rw [List.flatMap_cons, List.flatMap_cons, List.append_assoc, List.append_assoc,
        List.append_cancel_left_eq] at h
      obtain ⟨rfl, behind⟩ := append_inj_of_separator free.1 free'.1 head?_flatMap_separated
        head?_flatMap_separated h
      rw [ih free.2 free'.2 behind]

/-- Joining texts is putting a separator in front of each but the first. -/
lemma intercalate_cons_eq (separator text : List Char) (texts : List (List Char)) :
    separator.intercalate (text :: texts) = text ++ texts.flatMap (separator ++ ·) := by
  induction texts generalizing text with
  | nil => simp
  | cons next texts ih =>
    rw [List.intercalate_cons_cons, ih, List.flatMap_cons, List.append_assoc, List.append_assoc]

/-- Texts that are not empty and have no separator in them can be told from what they are joined
to. -/
theorem eq_of_intercalate_eq {texts texts' : List (List Char)}
    (free : ∀ text ∈ texts, text ≠ [] ∧ c ∉ text) (free' : ∀ text ∈ texts', text ≠ [] ∧ c ∉ text)
    (h : (c :: rest).intercalate texts = (c :: rest).intercalate texts') : texts = texts' := by
  have nonempty : ∀ {text : List Char} {texts : List (List Char)}, text ≠ [] →
      (c :: rest).intercalate (text :: texts) ≠ [] := by
    intro text texts nonempty
    rw [intercalate_cons_eq]
    exact List.append_ne_nil_of_left_ne_nil nonempty _
  cases texts with
  | nil =>
    cases texts' with
    | nil => rfl
    | cons text' texts' =>
      exact absurd h.symm (nonempty (free' text' List.mem_cons_self).1)
  | cons text texts =>
    cases texts' with
    | nil => exact absurd h (nonempty (free text List.mem_cons_self).1)
    | cons text' texts' =>
      rw [List.forall_mem_cons] at free free'
      rw [intercalate_cons_eq, intercalate_cons_eq] at h
      obtain ⟨rfl, behind⟩ := append_inj_of_separator free.1.2 free'.1.2 head?_flatMap_separated
        head?_flatMap_separated h
      rw [eq_of_flatMap_eq (fun _ there => (free.2 _ there).2) (fun _ there => (free'.2 _ there).2)
        behind]

end Joining

namespace Numeric

open Binary64

/-! ## Numbers -/

/-- Finite numbers that are the same but for the sign of zero are numerically equal. -/
lemma beq_of_withoutZeroSign_eq {x y : Float} (finite : IsFinite y)
    (h : withoutZeroSign x = withoutZeroSign y) : (x == y) = true := by
  have same : pattern x = pattern y := by
    rw [← pattern_withoutZeroSign, h, pattern_withoutZeroSign]
  by_cases zero : pattern x = 0
  · refine zeros_beq x y ?_ ?_ <;> rw [isZero, beq_iff_eq]
    · exact zero
    · rw [← same, zero]
  · rw [withoutZeroSign_of_ne_zero zero, withoutZeroSign_of_ne_zero (same ▸ zero)] at h
    rw [h]
    exact beq_self finite.le

/-- The text of a finite number is not that of an infinite one. -/
lemma numberText_ne_of_not_finite {x y : Float} (finite : IsFinite x) (notFinite : ¬IsFinite y)
    (withExponent : Bool) : numberText x withExponent ≠ numberText y withExponent := by
  intro same
  have accepted := read_numberText finite withExponent
  have rejected :=
    NumberLiteral.rejected_of_stray (.inl (exists_stray_of_not_finite notFinite withExponent))
  rw [← same, NumberLiteral.exists_fault_iff] at rejected
  exact rejected ⟨_, accepted⟩

/-- Numbers with the same text are numerically equal, and only they have the same text.

**Proof sketch.**  The text of a finite number reads as the number, but for the sign of zero, and
the words for the infinities do not read as numbers.  Conversely, numerically equal numbers are the
same or both zero. -/
theorem numberText_eq_iff {x y : Float} (hx : isNotANumber x = false)
    (hy : isNotANumber y = false) (withExponent : Bool) :
    numberText x withExponent = numberText y withExponent ↔ (x == y) = true := by
  constructor
  · intro same
    by_cases finite : IsFinite x <;> by_cases finite' : IsFinite y
    · have read := read_numberText finite withExponent
      rw [same, read_numberText finite'] at read
      exact beq_of_withoutZeroSign_eq finite' (Except.ok.inj read).symm
    · exact absurd same (numberText_ne_of_not_finite finite finite' withExponent)
    · exact absurd same.symm (numberText_ne_of_not_finite finite' finite withExponent)
    · have infinite := pattern_eq_of_not_finite hx finite
      have infinite' := pattern_eq_of_not_finite hy finite'
      rw [numberText_of_infinite infinite, numberText_of_infinite infinite'] at same
      have sign : isNegative x = isNegative y := by
        cases negative : isNegative x <;> cases negative' : isNegative y <;>
          simp_all
      have equal : x = y := by
        rw [← ofParts_parts x, ← ofParts_parts y, infinite, infinite', sign]
      rw [equal]
      exact beq_self infinite'.le
  · intro equal
    rcases eq_or_zeros_of_beq equal with rfl | ⟨zero, zero'⟩
    · rfl
    · rw [isZero, beq_iff_eq] at zero zero'
      rw [← String.toList_inj, numberText_of_zero zero, numberText_of_zero zero']

/-! ## Vectors -/

/-- The text of a number is not empty and has no semicolon. -/
lemma numberText_spec (x : Float) (withExponent : Bool) :
    (numberText x withExponent).toList ≠ [] ∧ ';' ∉ (numberText x withExponent).toList := by
  by_cases finite : IsFinite x
  · obtain ⟨literal, text, -⟩ := exists_literal_numberText finite withExponent
    rw [text]
    exact ⟨literal.text_ne_nil, fun there =>
      absurd (literal.text_spec.1 ';' there) (by decide)⟩
  · by_cases number : isNotANumber x = true
    · rw [numberText, if_pos number]
      decide
    · have infinite := pattern_eq_of_not_finite (Bool.not_eq_true _ ▸ number) finite
      rw [numberText_of_infinite infinite]
      cases isNegative x <;> decide

/-- The text of a vector of numbers joins the texts of the numbers in braces. -/
lemma toList_vectorText (xs : List Float) :
    (vectorText (.list (xs.map .number))).toList =
      '\x7b' :: ("; ".toList.intercalate (xs.map fun x => (numberText x false).toList) ++
        ['\x7d']) := by
  have texts : (xs.map Payload.number).map itemText = xs.map fun x => numberText x false := by
    rw [List.map_map]
    rfl
  rw [vectorText, Payload.toList?]
  simp only [texts, String.toList_append, String.toList_intercalate, List.map_map]
  rfl

/-- Lists of numbers have the same texts exactly if they are as long and numerically equal item by
item. -/
lemma map_numberText_eq_iff {xs ys : List Float} (hx : ∀ x ∈ xs, isNotANumber x = false)
    (hy : ∀ y ∈ ys, isNotANumber y = false) :
    (xs.map fun x => (numberText x false).toList) = (ys.map fun y => (numberText y false).toList) ↔
      List.Forall₂ (fun x y => (x == y) = true) xs ys := by
  induction xs generalizing ys with
  | nil => cases ys <;> simp
  | cons x xs ih =>
    cases ys with
    | nil => simp
    | cons y ys =>
      rw [List.forall_mem_cons] at hx hy
      rw [List.map_cons, List.map_cons, List.cons.injEq, String.toList_inj,
        numberText_eq_iff hx.1 hy.1, ih hx.2 hy.2, List.forall₂_cons]

/-- Vectors of numbers have the same text exactly if they are as long and numerically equal item by
item. -/
theorem vectorText_eq_iff {xs ys : List Float} (hx : ∀ x ∈ xs, isNotANumber x = false)
    (hy : ∀ y ∈ ys, isNotANumber y = false) :
    vectorText (.list (xs.map .number)) = vectorText (.list (ys.map .number)) ↔
      List.Forall₂ (fun x y => (x == y) = true) xs ys := by
  have free : ∀ zs : List Float, ∀ text ∈ zs.map fun z => (numberText z false).toList,
      text ≠ [] ∧ ';' ∉ text := by
    intro zs text there
    obtain ⟨z, -, rfl⟩ := List.mem_map.1 there
    exact numberText_spec z false
  rw [← map_numberText_eq_iff hx hy, ← String.toList_inj, toList_vectorText, toList_vectorText,
    List.cons.injEq, List.append_cancel_right_eq, and_iff_right rfl]
  exact ⟨eq_of_intercalate_eq (free xs) (free ys), fun same => by rw [same]⟩

variable {υ : Role → Type} [∀ role, DecidableEq (υ role)] [Interprets υ (NumericRule υ)]

/-- Whether a type was made by specializing vectors, by any parameters and at any time. -/
def IsVectorType (node : TypeNode (NumericRule υ)) : Prop :=
  ∃ params next after, (vector.specialize params).runFrom next = (.ok node, after)

/-- The types of vectors are made from the drafts for their lengths. -/
lemma IsVectorType.exists_eq {node : TypeNode (NumericRule υ)} (h : IsVectorType node) :
    ∃ length serial, node = (lengthDraft vector length).toNode serial := by
  obtain ⟨params, next, after, made⟩ := h
  obtain ⟨length, rfl, counts⟩ := exists_specialize_vector_iff.1 ⟨node, after, made⟩
  rw [runFrom_specialize_vector, if_pos counts] at made
  cases made
  exact ⟨length, next, rfl⟩

/-- The types of vectors write payloads as vectors, whatever the options. -/
lemma IsVectorType.text_tag {node : TypeNode (NumericRule υ)} (h : IsVectorType node)
    (payload : Payload) (options : List (Param (NumericRule υ))) :
    (node.tag payload).text options = vectorText payload := by
  obtain ⟨length, serial, rfl⟩ := h.exists_eq
  rfl

/-- **Texts tell values apart.**  Two values of types of vectors whose payloads are lists of
numbers, infinities and both zeros included, have the same text exactly if the lists are as long
and numerically equal item by item.  Two numbers written with an exponent or both without have the
same text exactly if they are numerically equal. -/
theorem printed_unambiguously :
    (∀ (a b : TypeNode (NumericRule υ)) (xs ys : List Float)
        (options options' : List (Param (NumericRule υ))),
      IsVectorType a → IsVectorType b →
      (∀ x ∈ xs, isNotANumber x = false) → (∀ y ∈ ys, isNotANumber y = false) →
      ((a.tag (.list (xs.map .number))).text options =
          (b.tag (.list (ys.map .number))).text options' ↔
        List.Forall₂ (fun x y => (x == y) = true) xs ys)) ∧
    (∀ (x y : Float) (options options' : List (Param (NumericRule υ))),
      isNotANumber x = false → isNotANumber y = false →
      asksForExponent options = asksForExponent options' →
      ((number.tag (.number x)).text options = (number.tag (.number y)).text options' ↔
        (x == y) = true)) := by
  constructor
  · intro a b xs ys options options' ha hb hx hy
    rw [ha.text_tag, hb.text_tag, vectorText_eq_iff hx hy]
  · intro x y options options' hx hy flags
    have text : ∀ (z : Float) (options : List (Param (NumericRule υ))),
        (number.tag (.number z)).text options = numberText z (asksForExponent options) :=
      fun _ _ => rfl
    rw [text, text, flags, numberText_eq_iff hx hy]

/-! ### Zeros and an infinity -/

/-- A zero with or without a minus, and an infinity. -/
def zeroAndInfinity (negative : Bool) : List Float :=
  [ofParts negative 0, ofParts false infinityPattern]

/-- Both are numbers. -/
lemma isNotANumber_zeroAndInfinity (negative : Bool) :
    ∀ x ∈ zeroAndInfinity negative, isNotANumber x = false := by
  have number : ∀ sign {bits : ℕ}, bits ≤ infinityPattern →
      isNotANumber (ofParts sign bits) = false := by
    intro sign bits bound
    rwa [isNotANumber_eq_false_iff, pattern_ofParts sign bound]
  intro x there
  simp only [zeroAndInfinity, List.mem_cons, List.not_mem_nil, or_false] at there
  rcases there with rfl | rfl
  · exact number _ (Nat.zero_le _)
  · exact number _ le_rfl

/-- Of two vectors, their types built apart, that differ in the sign of a zero the texts are the
same, and so are the texts of the zeros. -/
theorem printed_unambiguously_zeros :
    IsVectorType (threeType 7) ∧ IsVectorType (threeType 8) ∧
    zeroAndInfinity true ≠ zeroAndInfinity false ∧
    ((threeType 7).tag (.list ((zeroAndInfinity true).map .number))).text [] =
      ((threeType 8).tag (.list ((zeroAndInfinity false).map .number))).text [] ∧
    ∀ options : List (Param (NumericRule fun _ => Empty)),
      (number.tag (.number (ofParts true 0))).text options =
        (number.tag (.number (ofParts false 0))).text options := by
  obtain ⟨vectors, numbers⟩ := printed_unambiguously (υ := fun _ => Empty)
  have isVector : ∀ serial, IsVectorType (threeType serial) := fun serial =>
    ⟨[.integer 3], serial, serial + 1, by rw [runFrom_specialize_vector]; rfl⟩
  have zero : ∀ sign, isZero (ofParts sign 0) = true := fun sign => by
    rw [isZero, pattern_ofParts sign (Nat.zero_le _), beq_self_eq_true]
  have infinity : pattern (ofParts false infinityPattern) ≤ infinityPattern := by
    rw [pattern_ofParts _ le_rfl]
  have zeros : (ofParts true 0 == ofParts false 0) = true := zeros_beq _ _ (zero true) (zero false)
  refine ⟨isVector 7, isVector 8, fun same => ?_, ?_, fun options => ?_⟩
  · have signs := congrArg isNegative (List.cons.inj same).1
    rw [isNegative_ofParts _ (Nat.zero_le _), isNegative_ofParts _ (Nat.zero_le _)] at signs
    cases signs
  · exact (vectors _ _ _ _ [] [] (isVector 7) (isVector 8) (isNotANumber_zeroAndInfinity true)
      (isNotANumber_zeroAndInfinity false)).2 (.cons zeros (.cons (beq_self infinity) .nil))
  · have number : ∀ sign, isNotANumber (ofParts sign 0) = false := fun sign =>
      isNotANumber_zeroAndInfinity sign _ List.mem_cons_self
    exact (numbers _ _ options options (number true) (number false) rfl).2 zeros

end Numeric

end MultiDispatch
