set_option autoImplicit false
set_option relaxedAutoImplicit false

/-!
# Blank characters

The characters of the Unicode property `White_Space` and the removal of blanks at both ends
of a text.  Texts are lists of characters here, so that statements about them are statements
about lists.

## Main definitions

* `MultiDispatch.Text.isBlank` — the property, as a test on a character.
* `MultiDispatch.Text.trimBlank` — a text without its leading and trailing blanks.
* `MultiDispatch.Text.IsCore` — being what stands between the blanks around a text.

## Main results

* `MultiDispatch.Text.trimBlank_eq_iff` — what is left of a text is its only core.
-/

namespace MultiDispatch.Text

/-- The ranges of code points of the Unicode property `White_Space`. -/
def blankRanges : List (Nat × Nat) :=
  [(0x9, 0xD), (0x20, 0x20), (0x85, 0x85), (0xA0, 0xA0), (0x1680, 0x1680), (0x2000, 0x200A),
    (0x2028, 0x2029), (0x202F, 0x202F), (0x205F, 0x205F), (0x3000, 0x3000)]

/-- Whether a code point lies in one of the given closed ranges. -/
def inRanges (ranges : List (Nat × Nat)) (code : Nat) : Bool :=
  ranges.any fun range => range.1 ≤ code && code ≤ range.2

/-- A blank is a character of the Unicode property `White_Space`. -/
def isBlank (c : Char) : Bool := inRanges blankRanges c.toNat

/-- The text without its leading blanks. -/
def trimLeading (cs : List Char) : List Char := cs.dropWhile isBlank

/-- The text without its leading and without its trailing blanks. -/
def trimBlank (cs : List Char) : List Char := (trimLeading (trimLeading cs).reverse).reverse

/-! ## What is left of a text -/

/-- Whether `core` is what stands between the blanks around `text`: there are only blanks before and
behind it, and it has no blank at either end. -/
structure IsCore (core text : List Char) : Prop where
  /-- Around the core there are only blanks. -/
  around : ∃ before behind, text = before ++ core ++ behind ∧
    (∀ c ∈ before, isBlank c = true) ∧ ∀ c ∈ behind, isBlank c = true
  /-- The core does not start with a blank. -/
  first : ∀ c, core.head? = some c → isBlank c = false
  /-- The core does not end in a blank. -/
  last : ∀ c, core.getLast? = some c → isBlank c = false

/-- A text that starts with no blank keeps its start. -/
theorem trimLeading_eq_self {cs : List Char}
    (first : ∀ c, cs.head? = some c → isBlank c = false) : trimLeading cs = cs := by
  cases cs with
  | nil => rfl
  | cons c cs => simp [trimLeading, first c rfl]

/-- Blanks in front of a text are removed. -/
theorem trimLeading_append {before : List Char} (blank : ∀ c ∈ before, isBlank c = true)
    (cs : List Char) : trimLeading (before ++ cs) = trimLeading cs :=
  List.dropWhile_append_of_pos blank

/-- What is removed from the start of a text are blanks. -/
theorem exists_append_trimLeading (cs : List Char) :
    ∃ before, cs = before ++ trimLeading cs ∧ ∀ c ∈ before, isBlank c = true :=
  ⟨cs.takeWhile isBlank, List.takeWhile_append_dropWhile.symm,
    List.all_eq_true.mp List.all_takeWhile⟩

/-- What is left does not start with a blank. -/
theorem not_blank_of_head?_trimLeading {cs : List Char} {c : Char}
    (first : (trimLeading cs).head? = some c) : isBlank c = false := by
  have stops := List.head?_dropWhile_not isBlank cs
  rw [← trimLeading, first] at stops
  exact stops

/-- What is removed from the end of a text without leading blanks are blanks. -/
theorem exists_trimBlank_append (cs : List Char) :
    ∃ behind, trimLeading cs = trimBlank cs ++ behind ∧ ∀ c ∈ behind, isBlank c = true := by
  obtain ⟨behind, split, blank⟩ := exists_append_trimLeading (trimLeading cs).reverse
  refine ⟨behind.reverse, ?_, by simpa using blank⟩
  rw [trimBlank, ← List.reverse_append, ← split, List.reverse_reverse]

/-- A core of a text is what is left of it.

**Proof sketch.** Unless the core is empty, the blanks before it are removed up to its first
character and, in the text read from its end, those behind it up to its last. -/
theorem IsCore.trimBlank_eq {core text : List Char} (h : IsCore core text) :
    trimBlank text = core := by
  obtain ⟨before, behind, rfl, blank_before, blank_behind⟩ := h.around
  rw [trimBlank, List.append_assoc, trimLeading_append blank_before]
  cases core with
  | nil =>
    have nothing : trimLeading (behind ++ []) = [] := trimLeading_append blank_behind []
    rw [List.append_nil] at nothing
    rw [List.nil_append, nothing]
    rfl
  | cons c rest =>
    have kept : trimLeading (c :: rest ++ behind) = c :: rest ++ behind :=
      trimLeading_eq_self h.first
    have kept_reverse : trimLeading (c :: rest).reverse = (c :: rest).reverse := by
      apply trimLeading_eq_self
      rw [List.head?_reverse]
      exact h.last
    rw [kept, List.reverse_append, trimLeading_append (by simpa using blank_behind), kept_reverse,
      List.reverse_reverse]

/-- What is left of a text is a core of it. -/
theorem isCore_trimBlank (text : List Char) : IsCore (trimBlank text) text where
  around := by
    obtain ⟨before, split, blank_before⟩ := exists_append_trimLeading text
    obtain ⟨behind, split_rest, blank_behind⟩ := exists_trimBlank_append text
    refine ⟨before, behind, ?_, blank_before, blank_behind⟩
    rw [List.append_assoc, ← split_rest]
    exact split
  first := by
    intro c first
    obtain ⟨behind, split, -⟩ := exists_trimBlank_append text
    have first_left : (trimLeading text).head? = some c := by
      rw [split, List.head?_append, first]
      rfl
    exact not_blank_of_head?_trimLeading first_left
  last := by
    intro c last
    rw [trimBlank, List.getLast?_reverse] at last
    exact not_blank_of_head?_trimLeading last

/-- What is left of a text is its only core. -/
theorem trimBlank_eq_iff {core text : List Char} : trimBlank text = core ↔ IsCore core text := by
  constructor
  · rintro rfl
    exact isCore_trimBlank text
  · exact IsCore.trimBlank_eq

/-- A text with no blank at either end is kept as it is. -/
theorem trimBlank_of_ends {cs : List Char}
    (first : ∀ c, cs.head? = some c → isBlank c = false)
    (last : ∀ c, cs.getLast? = some c → isBlank c = false) : trimBlank cs = cs :=
  IsCore.trimBlank_eq ⟨⟨[], [], by simp⟩, first, last⟩

/-- Nothing is left of a text exactly if it has nothing but blanks. -/
theorem trimBlank_eq_nil_iff {text : List Char} :
    trimBlank text = [] ↔ ∀ c ∈ text, isBlank c = true := by
  rw [trimBlank_eq_iff]
  constructor
  · rintro ⟨⟨before, behind, rfl, blank_before, blank_behind⟩, -, -⟩ c there
    simp only [List.append_nil, List.mem_append] at there
    exact there.elim (blank_before c) (blank_behind c)
  · intro blank
    exact ⟨⟨text, [], by simp, blank, by simp⟩, by simp, by simp⟩

end MultiDispatch.Text
