import MultiDispatch.Proofs.Expressions

set_option autoImplicit false
set_option relaxedAutoImplicit false

/-!
# Outcomes of the operators on vectors

The standard operators on vectors look at payloads of any kind.  Here the arguments only have types
of the right kinds; what their payloads are, and whether these fit the types, is left open.  Three
operators combine two vectors and fail alike; one of them also scales a vector by a number, which
may stand on either side.

## Main definitions

* `MultiDispatch.Numeric.standardCall` — a call to the standard registry.
* `MultiDispatch.Numeric.ListsNumbers` — a payload is a list of numbers.
* `MultiDispatch.Numeric.Refused` — what is reported about two payloads that cannot be combined.
* `MultiDispatch.Numeric.ItemByItem`, `MultiDispatch.Numeric.sumFromLeft` — what is made of two
  lists of numbers.

## Main results

* `MultiDispatch.Numeric.numberPairs_of_refused` — the first thing wrong with the payloads is
  reported.
* `MultiDispatch.Numeric.vectorOperators_outcomes` — when the operators succeed, with what, and how
  they fail.
* `MultiDispatch.Numeric.scale_either_order` — a vector may be scaled from either side.
-/

namespace MultiDispatch.Numeric

/-! ## Lists of numbers -/

/-- Whether a payload is a list of items whose numeric coercions are these numbers. -/
def ListsNumbers (payload : Payload) (xs : List Float) : Prop :=
  ∃ items, payload = .list items ∧ List.Forall₂ (fun item x => item.toFloat? = some x) items xs

/-- Whether two payloads are lists of as many numbers. -/
def Combinable (a b : Payload) : Prop :=
  ∃ xs ys, ListsNumbers a xs ∧ ListsNumbers b ys ∧ xs.length = ys.length

/-- What is reported about two payloads that cannot be combined: the kind of the first if this is no
list of numbers, else the kind of the second if that is none, and else their lengths. -/
inductive Refused (a b : Payload) : List String → Prop where
  /-- The first payload is no list of numbers. -/
  | first (bad : ∀ xs, ¬ ListsNumbers a xs) : Refused a b [a.kind]
  /-- The first payload is one, and the second is not. -/
  | second {xs : List Float} (good : ListsNumbers a xs) (bad : ∀ ys, ¬ ListsNumbers b ys) :
    Refused a b [b.kind]
  /-- Both are, and their lengths differ. -/
  | lengths {xs ys : List Float} (first : ListsNumbers a xs) (second : ListsNumbers b ys)
    (differ : xs.length ≠ ys.length) :
    Refused a b ["List(" ++ toString xs.length ++ ")", "List(" ++ toString ys.length ++ ")"]

/-- Payloads that cannot be combined are refused for one of the three reasons. -/
lemma exists_refused {a b : Payload} (h : ¬ Combinable a b) : ∃ operands, Refused a b operands := by
  by_cases first : ∃ xs, ListsNumbers a xs
  · obtain ⟨xs, ha⟩ := first
    by_cases second : ∃ ys, ListsNumbers b ys
    · obtain ⟨ys, hb⟩ := second
      exact ⟨_, .lengths ha hb fun same => h ⟨xs, ys, ha, hb, same⟩⟩
    · exact ⟨_, .second ha (not_exists.mp second)⟩
  · exact ⟨_, .first (not_exists.mp first)⟩

/-- A payload that is no list of numbers is reported by its kind. -/
lemma numbers_of_not_listsNumbers {payload : Payload} (bad : ∀ xs, ¬ ListsNumbers payload xs)
    (operation : String) :
    numbers operation payload = .error (.invalidOperand operation [payload.kind]) := by
  cases found : numbers operation payload with
  | ok xs => exact absurd (numbers_eq_ok_iff.mp found) (bad xs)
  | error fault =>
    rw [← found]
    rw [numbers] at found ⊢
    split
    · next xs some => simp [some] at found
    · rfl

/-- Two payloads that cannot be combined are reported by the first thing that is wrong. -/
lemma numberPairs_of_refused {a b : Payload} {operands : List String} (h : Refused a b operands)
    (operation : String) :
    numberPairs operation a b = .error (.invalidOperand operation operands) := by
  cases h with
  | first bad => simp only [numberPairs, numbers_of_not_listsNumbers bad]
  | second good bad =>
    simp only [numberPairs, numbers_eq_ok_iff.mpr good, numbers_of_not_listsNumbers bad]
  | lengths first second differ =>
    exact numberPairs_of_length_ne (numbers_eq_ok_iff.mpr first) (numbers_eq_ok_iff.mpr second)
      differ

/-- Two payloads are refused for one reason only. -/
lemma Refused.unique {a b : Payload} {operands others : List String} (h : Refused a b operands)
    (h' : Refused a b others) : operands = others := by
  have same := (numberPairs_of_refused h "").symm.trans (numberPairs_of_refused h' "")
  simpa [TypeFault.invalidOperand] using same

/-- Payloads that are refused cannot be combined. -/
lemma Refused.not_combinable {a b : Payload} {operands : List String} (h : Refused a b operands) :
    ¬ Combinable a b := by
  rintro ⟨xs, ys, hx, hy, same⟩
  have pairs : numberPairs "" a b = .ok (xs.zip ys) :=
    numberPairs_of_length_eq (numbers_eq_ok_iff.mpr hx) (numbers_eq_ok_iff.mpr hy) same
  rw [numberPairs_of_refused h] at pairs
  cases pairs

/-! ## Combining two lists of numbers -/

/-- Whether items are the results of a function on two lists of numbers, one for each position. -/
structure ItemByItem (function : Float → Float → Float) (xs ys : List Float)
    (items : List Payload) : Prop where
  length_eq : items.length = xs.length
  item_eq : ∀ (i : Nat) (x y : Float), xs[i]? = some x → ys[i]? = some y →
    items[i]? = some (.number (function x y))

/-- The sum of numbers from left to right, starting at negative zero. -/
def sumFromLeft (xs : List Float) : Float := xs.foldl (· + ·) (-0.0)

variable {a b : Payload} {xs ys : List Float}

/-- Two lists of as many numbers are combined item by item. -/
lemma exists_pointwise (first : ListsNumbers a xs) (second : ListsNumbers b ys)
    (same : xs.length = ys.length) (operation : String) (function : Float → Float → Float) :
    ∃ items, ItemByItem function xs ys items ∧
      pointwise operation function a b = .ok (.list items) := by
  have pairs : numberPairs operation a b = .ok (xs.zip ys) :=
    numberPairs_of_length_eq (numbers_eq_ok_iff.mpr first) (numbers_eq_ok_iff.mpr second) same
  refine ⟨(xs.zip ys).map fun pair => .number (function pair.1 pair.2), ⟨?_, ?_⟩, ?_⟩
  · rw [List.length_map, List.length_zip, ← same, Nat.min_self]
  · intro i x y hx hy
    have pair : (xs.zip ys)[i]? = some (x, y) := List.getElem?_zip_eq_some.mpr ⟨hx, hy⟩
    rw [List.getElem?_map, pair, Option.map_some]
  · rw [pointwise, pairs]
    rfl

/-- The product of two lists of as many numbers is the sum of the products of their items. -/
lemma dotProduct_eq (first : ListsNumbers a xs) (second : ListsNumbers b ys)
    (same : xs.length = ys.length) (operation : String) :
    dotProduct operation a b = .ok (.number (sumFromLeft (List.zipWith (· * ·) xs ys))) := by
  have pairs : numberPairs operation a b = .ok (xs.zip ys) :=
    numberPairs_of_length_eq (numbers_eq_ok_iff.mpr first) (numbers_eq_ok_iff.mpr second) same
  rw [dotProduct, pairs, sumFromLeft, ← List.map_uncurry_zip_eq_zipWith, List.foldl_map]
  rfl

/-- A list of numbers is scaled item by item. -/
lemma scale_eq_ok {payload factor : Payload} {k : Float} (listed : ListsNumbers payload xs)
    (coerced : factor.toFloat? = some k) (operation : String) :
    scale operation payload factor = .ok (.list (xs.map fun x => .number (x * k))) := by
  simp only [scale, coerced, numbers_eq_ok_iff.mpr listed, Except.map]

/-- A factor that is no number is reported, whatever is to be scaled. -/
lemma scale_of_no_factor {payload factor : Payload} (none : factor.toFloat? = none)
    (operation : String) :
    scale operation payload factor = .error (.invalidOperand operation [factor.kind]) := by
  simp only [scale, none]

/-- What is no list of numbers is reported if the factor is a number. -/
lemma scale_of_no_vector {payload factor : Payload} {k : Float}
    (coerced : factor.toFloat? = some k) (bad : ∀ xs, ¬ ListsNumbers payload xs)
    (operation : String) :
    scale operation payload factor = .error (.invalidOperand operation [payload.kind]) := by
  simp only [scale, coerced, numbers_of_not_listsNumbers bad, Except.map]

/-! ## Calls to the standard registry -/

section Calls

variable {υ : Role → Type} [∀ role, DecidableEq (υ role)]

/-- The call of an operator of a standard registry that was made when `first` was the next serial
number. -/
def standardCall (first : Serial) (name : String) (arguments : List (Tagged (NumericRule υ))) :
    Minting DispatchFault (Tagged (NumericRule υ)) :=
  (standardRegistry.run first).1.call name arguments

variable {first : Serial} {name : String} {arguments : List (Tagged (NumericRule υ))}
  {own : List Kind} {line : String × List Kind} {signature : Signature (NumericRule υ)}
  {serial : Serial} {resultType : ResultType (NumericRule υ)} {node : TypeNode (NumericRule υ)}
  {next : Serial} {a b : Tagged (NumericRule υ)} {xs ys : List Float}

/-- Two arguments have the kinds of their types. -/
lemma forall₂_isOfKind_pair {k₁ k₂ : Kind} (ha : IsOfKind a.type k₁) (hb : IsOfKind b.type k₂) :
    List.Forall₂ IsOfKind ([a, b].map (·.type)) [k₁, k₂] :=
  .cons ha (.cons hb .nil)

/-- A call is answered by the rules of the entry that is listed for its name and the kinds of its
arguments. -/
lemma runFrom_standardCall (compute : List (Tagged (NumericRule υ)) → Except TypeFault Payload)
    (kinds : List.Forall₂ IsOfKind (arguments.map (·.type)) own)
    (listed : (operandKinds.zip (standardEntries first)).find? (fun line => line.1 = (name, own)) =
      some (line, ⟨name, signature, ⟨serial, resultType, compute⟩⟩))
    (type : (resultType.resolve arguments).runFrom next = (.ok node, next)) :
    (standardCall first name arguments).runFrom next =
      (((compute arguments).mapError DispatchFault.type).map node.tag, next) := by
  have deciding := firstAccepting_standardEntries first name kinds
  rw [listed, Option.map_some] at deciding
  calc (standardCall first name arguments).runFrom next
      = Registry.callByLog (standardEntries first) name arguments next :=
        Registry.runFrom_call_ofEntries ..
    _ = Registry.Entry.answer _ arguments next := Registry.callByLog_of_firstAccepting deciding next
    _ = (((compute arguments).mapError DispatchFault.type).map node.tag, next) :=
        answer_of_type type

/-- The sum of two vectors is that of their payloads. -/
lemma runFrom_sum (ha : IsOfKind a.type .vector) (hb : IsOfKind b.type .vector) :
    (standardCall first "+" [a, b]).runFrom next =
      (((pointwise "+" (· + ·) a.payload b.payload).mapError .type).map a.type.tag, next) :=
  runFrom_standardCall (Lift.binary (pointwise "+" (· + ·))) (forall₂_isOfKind_pair ha hb) rfl
    (resolve_typeOfFirst a [b] next)

/-- The difference of two vectors is that of their payloads. -/
lemma runFrom_difference (ha : IsOfKind a.type .vector) (hb : IsOfKind b.type .vector) :
    (standardCall first "-" [a, b]).runFrom next =
      (((pointwise "-" (· - ·) a.payload b.payload).mapError .type).map a.type.tag, next) :=
  runFrom_standardCall (Lift.binary (pointwise "-" (· - ·))) (forall₂_isOfKind_pair ha hb) rfl
    (resolve_typeOfFirst a [b] next)

/-- The product of two vectors is that of their payloads, and a number. -/
lemma runFrom_product (ha : IsOfKind a.type .vector) (hb : IsOfKind b.type .vector) :
    (standardCall first "*" [a, b]).runFrom next =
      (((dotProduct "*" a.payload b.payload).mapError .type).map number.tag, next) :=
  runFrom_standardCall (Lift.binary (dotProduct "*")) (forall₂_isOfKind_pair ha hb) rfl
    (Minting.runFrom_pure number next)

/-- A vector is scaled by a number on either side of it as its payload is. -/
lemma runFrom_scaled {v k : Tagged (NumericRule υ)} (hv : IsOfKind v.type .vector)
    (hk : IsOfKind k.type .number) :
    ∀ arguments ∈ [[v, k], [k, v]], (standardCall first "*" arguments).runFrom next =
      (((scale "*" v.payload k.payload).mapError .type).map v.type.tag, next) := by
  rw [List.forall_mem_cons, List.forall_mem_singleton]
  constructor
  · exact runFrom_standardCall scaleFirst (forall₂_isOfKind_pair hv hk) rfl
      (resolve_typeOfFirst v [k] next)
  · exact runFrom_standardCall scaleSecond (forall₂_isOfKind_pair hk hv) rfl
      (resolve_typeOfSecond k v [] next)

/-! ## Outcomes -/

/-- The results of the three operators on two vectors, the first of a type and with the numbers
`xs`, the second with the numbers `ys`, when `next` is the next serial number. -/
structure Combines (call : String → Except DispatchFault (Tagged (NumericRule υ)) × Serial)
    (type : TypeNode (NumericRule υ)) (xs ys : List Float) (next : Serial) : Prop where
  /-- The sum has the sums of the items. -/
  sum : ∃ items, ItemByItem (· + ·) xs ys items ∧ call "+" = (.ok (type.tag (.list items)), next)
  /-- The difference has the differences of the items. -/
  difference : ∃ items, ItemByItem (· - ·) xs ys items ∧
    call "-" = (.ok (type.tag (.list items)), next)
  /-- The product is the sum of the products of the items. -/
  product : call "*" =
    (.ok (number.tag (.number (sumFromLeft (List.zipWith (· * ·) xs ys)))), next)

/-- What comes of the three operators on two payloads `a` and `b` of vectors, the first of a type,
when `next` is the next serial number. -/
structure CombineOutcomes (call : String → Except DispatchFault (Tagged (NumericRule υ)) × Serial)
    (type : TypeNode (NumericRule υ)) (a b : Payload) (next : Serial) : Prop where
  /-- They succeed exactly on lists of as many numbers. -/
  succeeds_iff : ∀ name ∈ ["+", "-", "*"], (∃ value, (call name).1 = .ok value) ↔ Combinable a b
  /-- There they work on these numbers. -/
  succeeds : ∀ xs ys, ListsNumbers a xs → ListsNumbers b ys → xs.length = ys.length →
    Combines call type xs ys next
  /-- Everywhere else all of them fail, and they report the same operands. -/
  fails : ¬ Combinable a b → ∃ operands, Refused a b operands ∧
    ∀ name ∈ ["+", "-", "*"], call name = (.error (.type (.invalidOperand name operands)), next)

/-- What comes of scaling the payload `v` of a vector of a type by the payload `k` of a number, when
`next` is the next serial number. -/
structure ScaleOutcomes (outcome : Except DispatchFault (Tagged (NumericRule υ)) × Serial)
    (type : TypeNode (NumericRule υ)) (v k : Payload) (next : Serial) : Prop where
  /-- A factor that is no number is reported, whatever is to be scaled. -/
  noFactor : k.toFloat? = none →
    outcome = (.error (.type (.invalidOperand "*" [k.kind])), next)
  /-- What is no list of numbers is reported if the factor is a number. -/
  noVector : ∀ factor, k.toFloat? = some factor → (∀ xs, ¬ ListsNumbers v xs) →
    outcome = (.error (.type (.invalidOperand "*" [v.kind])), next)
  /-- Every item is multiplied by the factor. -/
  succeeds : ∀ factor xs, k.toFloat? = some factor → ListsNumbers v xs →
    outcome = (.ok (type.tag (.list (xs.map fun x => .number (x * factor)))), next)

omit [∀ role, DecidableEq (υ role)] in
/-- A value is the outcome if its payload is computed. -/
lemma outcome_of_ok {outcome : Except DispatchFault (Tagged (NumericRule υ)) × Serial}
    {computed : Except TypeFault Payload} {payload : Payload}
    (called : outcome = ((computed.mapError .type).map node.tag, next))
    (ok : computed = .ok payload) : outcome = (.ok (node.tag payload), next) := by
  rw [called, ok]
  rfl

omit [∀ role, DecidableEq (υ role)] in
/-- A failure is the outcome if it is that of the computation. -/
lemma outcome_of_error {outcome : Except DispatchFault (Tagged (NumericRule υ)) × Serial}
    {computed : Except TypeFault Payload} {fault : TypeFault}
    (called : outcome = ((computed.mapError .type).map node.tag, next))
    (fails : computed = .error fault) : outcome = (.error (.type fault), next) := by
  rw [called, fails]
  rfl

omit [∀ role, DecidableEq (υ role)] in
/-- All three operators have a result on two vectors that they combine. -/
lemma Combines.exists_ok {call : String → Except DispatchFault (Tagged (NumericRule υ)) × Serial}
    (h : Combines call node xs ys next) :
    ∀ name ∈ ["+", "-", "*"], ∃ value, (call name).1 = .ok value := by
  obtain ⟨_, -, sum⟩ := h.sum
  obtain ⟨_, -, difference⟩ := h.difference
  rw [List.forall_mem_cons, List.forall_mem_cons, List.forall_mem_singleton, sum, difference,
    h.product]
  exact ⟨⟨_, rfl⟩, ⟨_, rfl⟩, ⟨_, rfl⟩⟩

/-- The three operators combine lists of as many numbers. -/
lemma combines (ha : IsOfKind a.type .vector) (hb : IsOfKind b.type .vector)
    (hx : ListsNumbers a.payload xs) (hy : ListsNumbers b.payload ys)
    (same : xs.length = ys.length) :
    Combines (fun name => (standardCall first name [a, b]).runFrom next) a.type xs ys next := by
  obtain ⟨sums, sums_made, sum⟩ := exists_pointwise hx hy same "+" (· + ·)
  obtain ⟨differences, differences_made, difference⟩ := exists_pointwise hx hy same "-" (· - ·)
  have product := dotProduct_eq hx hy same "*"
  exact ⟨⟨sums, sums_made, outcome_of_ok (runFrom_sum ha hb) sum⟩,
    ⟨differences, differences_made, outcome_of_ok (runFrom_difference ha hb) difference⟩,
    outcome_of_ok (runFrom_product ha hb) product⟩

/-- Payloads that cannot be combined are refused by all three operators alike. -/
lemma runFrom_of_refused (ha : IsOfKind a.type .vector) (hb : IsOfKind b.type .vector)
    {operands : List String} (reason : Refused a.payload b.payload operands) :
    ∀ name ∈ ["+", "-", "*"], (standardCall first name [a, b]).runFrom next =
      (.error (.type (.invalidOperand name operands)), next) := by
  have pairs := numberPairs_of_refused reason
  rw [List.forall_mem_cons, List.forall_mem_cons, List.forall_mem_singleton]
  refine ⟨outcome_of_error (runFrom_sum ha hb) ?_, outcome_of_error (runFrom_difference ha hb) ?_,
    outcome_of_error (runFrom_product ha hb) ?_⟩
  · rw [pointwise, pairs]
    rfl
  · rw [pointwise, pairs]
    rfl
  · rw [dotProduct, pairs]
    rfl

/-- What comes of the three operators on two vectors can be told from the payloads.

**Proof sketch.** Each operator hands the payloads to a function that first looks for pairs of
numbers.  There are pairs exactly for lists of as many numbers; then it works on them, and
otherwise it reports why there are none. -/
lemma combineOutcomes (ha : IsOfKind a.type .vector) (hb : IsOfKind b.type .vector) :
    CombineOutcomes (fun name => (standardCall first name [a, b]).runFrom next) a.type a.payload
      b.payload next := by
  have fails : ¬ Combinable a.payload b.payload → ∃ operands,
      Refused a.payload b.payload operands ∧ ∀ name ∈ ["+", "-", "*"],
        (standardCall first name [a, b]).runFrom next =
          (.error (.type (.invalidOperand name operands)), next) := by
    intro none
    obtain ⟨operands, reason⟩ := exists_refused none
    exact ⟨operands, reason, runFrom_of_refused ha hb reason⟩
  refine ⟨fun name here => ⟨?_, ?_⟩, fun _ _ hx hy same => combines ha hb hx hy same, fails⟩
  · rintro ⟨value, ok⟩
    by_contra none
    obtain ⟨operands, -, all⟩ := fails none
    rw [all name here] at ok
    cases ok
  · rintro ⟨xs, ys, hx, hy, same⟩
    exact (combines ha hb hx hy same).exists_ok name here

/-- What comes of scaling a vector, from either side, can be told from the payloads. -/
lemma scaleOutcomes {v k : Tagged (NumericRule υ)} (hv : IsOfKind v.type .vector)
    (hk : IsOfKind k.type .number) : ∀ arguments ∈ [[v, k], [k, v]],
      ScaleOutcomes ((standardCall first "*" arguments).runFrom next) v.type v.payload k.payload
        next := by
  intro arguments here
  have called : (standardCall first "*" arguments).runFrom next = _ :=
    runFrom_scaled hv hk arguments here
  exact ⟨fun none => outcome_of_error called (scale_of_no_factor none "*"),
    fun _ coerced bad => outcome_of_error called (scale_of_no_vector coerced bad "*"),
    fun _ _ coerced listed => outcome_of_ok called (scale_eq_ok listed coerced "*")⟩

/-- Scaling results in a payload or in an invalid operand. -/
lemma scale_cases (operation : String) (payload factor : Payload) :
    (∃ result, scale operation payload factor = .ok result) ∨
      ∃ operands, scale operation payload factor = .error (.invalidOperand operation operands) := by
  cases coerced : factor.toFloat? with
  | none => exact .inr ⟨_, scale_of_no_factor coerced operation⟩
  | some k =>
    by_cases listed : ∃ xs, ListsNumbers payload xs
    · obtain ⟨xs, listed⟩ := listed
      exact .inl ⟨_, scale_eq_ok listed coerced operation⟩
    · exact .inr ⟨_, scale_of_no_vector coerced (not_exists.mp listed) operation⟩

/-- **Outcomes of the operators on vectors.**  On two arguments whose types implement that of
vectors and not that of numbers, the sum, the difference and the product succeed exactly if both
payloads are lists of as many items with numeric coercions; the first two then combine them item
by item, and the product sums the products from left to right.  Otherwise all three fail as the
operator called, with the same operands: the kind of the first payload that is no list of numbers,
or both lengths.  Scaling such an argument by one whose type implements that of numbers and not
that of vectors, from either side, fails first for a factor that is no number and then for a
payload that is no list of numbers, and otherwise multiplies every item. -/
theorem vectorOperators_outcomes (first next : Serial) :
    (∀ a b : Tagged (NumericRule υ), IsOfKind a.type .vector → IsOfKind b.type .vector →
      CombineOutcomes (fun name => (standardCall first name [a, b]).runFrom next) a.type a.payload
        b.payload next) ∧
    ∀ v k : Tagged (NumericRule υ), IsOfKind v.type .vector → IsOfKind k.type .number →
      ∀ arguments ∈ [[v, k], [k, v]],
        ScaleOutcomes ((standardCall first "*" arguments).runFrom next) v.type v.payload k.payload
          next :=
  ⟨fun _ _ ha hb => combineOutcomes ha hb, fun _ _ hv hk => scaleOutcomes hv hk⟩

/-- **A vector is scaled from either side alike.**  Let the type of one argument implement that of
vectors and not that of numbers, and the type of the other that of numbers and not that of vectors.
Whatever their payloads, and whichever standard registries are asked, the products in both orders
have the same outcome: the same payload under the type of the vector, or an invalid operand with
the same report. -/
theorem scale_either_order {v k : Tagged (NumericRule υ)} (hv : IsOfKind v.type .vector)
    (hk : IsOfKind k.type .number) (first first' next next' : Serial) :
    (∃ payload,
      (standardCall first "*" [v, k]).runFrom next = (.ok (v.type.tag payload), next) ∧
      (standardCall first' "*" [k, v]).runFrom next' = (.ok (v.type.tag payload), next')) ∨
    ∃ operands,
      (standardCall first "*" [v, k]).runFrom next =
        (.error (.type (.invalidOperand "*" operands)), next) ∧
      (standardCall first' "*" [k, v]).runFrom next' =
        (.error (.type (.invalidOperand "*" operands)), next') := by
  have vectorFirst : (standardCall first "*" [v, k]).runFrom next = _ :=
    runFrom_scaled hv hk _ (by simp)
  have vectorSecond : (standardCall first' "*" [k, v]).runFrom next' = _ :=
    runFrom_scaled hv hk _ (by simp)
  rcases scale_cases "*" v.payload k.payload with ⟨payload, ok⟩ | ⟨operands, fails⟩
  · exact .inl ⟨payload, outcome_of_ok vectorFirst ok, outcome_of_ok vectorSecond ok⟩
  · exact .inr ⟨operands, outcome_of_error vectorFirst fails, outcome_of_error vectorSecond fails⟩

end Calls

/-! ### Vectors of two and of three items -/

open Expression (shortVector longVector hasShape_shortVector hasShape_longVector)

/-- The items of a vector of a length are so many numbers. -/
lemma HasShape.exists_listsNumbers {υ : Role → Type} [∀ role, DecidableEq (υ role)]
    [Interprets υ (NumericRule υ)] {value : Tagged (NumericRule υ)} {length : UInt64}
    (h : HasShape value (.vector length)) :
    ∃ xs, ListsNumbers value.payload xs ∧ xs.length = length.toNat :=
  (h.exists_numbers "").imp fun _ numbers => numbers.imp_left numbers_eq_ok_iff.mp

/-- A truth value, which counts as one. -/
def truth : Tagged (NumericRule fun _ => Empty) := number.tag (.boolean true)

/-- The truth value is a number. -/
lemma hasShape_truth : HasShape truth .number := .number rfl

/-- Vectors of two and of three items are refused by their lengths, and the shorter one is scaled
by the truth value. -/
theorem vectorOperators_outcomes_short :
    IsOfKind shortVector.type .vector ∧ IsOfKind longVector.type .vector ∧
    IsOfKind truth.type .number ∧
    (∀ name ∈ ["+", "-", "*"], (standardCall 2 name [shortVector, longVector]).runFrom 9 =
      (.error (.type (.invalidOperand name ["List(2)", "List(3)"])), 9)) ∧
    ∃ xs, ListsNumbers shortVector.payload xs ∧
      (standardCall 2 "*" [truth, shortVector]).runFrom 9 =
        (.ok (shortVector.type.tag (.list (xs.map fun x => .number (x * 1)))), 9) := by
  have short := hasShape_shortVector.isOfKind
  have long := hasShape_longVector.isOfKind
  obtain ⟨xs, hx, two⟩ := hasShape_shortVector.exists_listsNumbers
  obtain ⟨ys, hy, three⟩ := hasShape_longVector.exists_listsNumbers
  obtain ⟨combine, scale⟩ := vectorOperators_outcomes (υ := fun _ => Empty) 2 9
  refine ⟨short, long, hasShape_truth.isOfKind, ?_, xs, hx, ?_⟩
  · have differ : xs.length ≠ ys.length := by
      rw [two, three]
      decide
    have refused : Refused shortVector.payload longVector.payload _ := .lengths hx hy differ
    obtain ⟨operands, reason, all⟩ := (combine _ _ short long).fails refused.not_combinable
    rw [reason.unique refused, two, three] at all
    exact all
  · exact (scale shortVector truth short hasShape_truth.isOfKind _ (by simp)).succeeds 1 xs rfl hx

/-- The shorter vector is scaled by the truth value in either order alike. -/
theorem scale_either_order_short :
    IsOfKind shortVector.type .vector ∧ IsOfKind truth.type .number ∧
    ((standardCall 2 "*" [shortVector, truth]).runFrom 9).1 =
      ((standardCall 2 "*" [truth, shortVector]).runFrom 9).1 := by
  have short := hasShape_shortVector.isOfKind
  refine ⟨short, hasShape_truth.isOfKind, ?_⟩
  rcases scale_either_order short hasShape_truth.isOfKind 2 2 9 9 with
    ⟨payload, first, second⟩ | ⟨operands, first, second⟩
  · rw [first, second]
  · rw [first, second]

end MultiDispatch.Numeric
