import MultiDispatch.Proofs.FirstMatch

set_option autoImplicit false
set_option relaxedAutoImplicit false

/-!
# Registries as flat logs

A registry comes about by registrations, one after the other.  What it answers to a call can be
told from the plain list of them: names and arities interleave there in any way, and the first
entry that has the name and accepts the arguments decides.

## Main definitions

* `MultiDispatch.Registration` — the ways to register, with the registry and the log they make.
* `MultiDispatch.Registry.firstAccepting` — the entry of a log that decides a call.
* `MultiDispatch.Registry.callByLog` — the answer to a call, from the log alone.

## Main results

* `MultiDispatch.Registration.foldlM_apply` — a registry is made by the entries of its log.
* `MultiDispatch.Registry.call_eq_callByLog` — calls are answered from the log alone.
-/

namespace MultiDispatch

variable {ρ : Role → Type}

/-! ## Histories of registrations -/

/-- One act of registration. -/
inductive Registration (ρ : Role → Type) where
  /-- Adds an implementation that exists already. -/
  | add (entry : Registry.Entry ρ)
  /-- Adds a new implementation with these rules. -/
  | addNew (name : String) (signature : Signature ρ) (resultType : ResultType ρ)
    (compute : List (Tagged ρ) → Except TypeFault Payload)
  /-- Starts over with a registry made of entries. -/
  | ofEntries (entries : List (Registry.Entry ρ))

namespace Registration

/-- The registry after an act of registration. -/
def apply (registry : Registry ρ) : Registration ρ → Fresh (Registry ρ)
  | add entry => return registry.add entry.name entry.signature entry.implementation
  | addNew name signature resultType compute =>
    registry.addNew name signature resultType compute
  | ofEntries entries => return Registry.ofEntries entries

/-- The log after an act of registration.  A new implementation is its two rules under the next
serial number. -/
def record (log : List (Registry.Entry ρ)) : Registration ρ → Fresh (List (Registry.Entry ρ))
  | add entry => return log ++ [entry]
  | addNew name signature resultType compute =>
    modifyGet fun next => (log ++ [⟨name, signature, ⟨next, resultType, compute⟩⟩], next + 1)
  | ofEntries entries => return entries

/-- An act of registration does to the registry what it does to the log. -/
lemma apply_ofEntries (log : List (Registry.Entry ρ)) (registration : Registration ρ) :
    registration.apply (Registry.ofEntries log) =
      Registry.ofEntries <$> registration.record log := by
  cases registration with
  | add entry =>
    rw [apply, record, map_pure, Registry.ofEntries_append_singleton, Registry.addEntry]
  | addNew name signature resultType compute =>
    funext next
    have grown := Registry.ofEntries_append_singleton log
      ⟨name, signature, ⟨next, resultType, compute⟩⟩
    exact Prod.ext grown.symm rfl
  | ofEntries entries => rw [apply, record, map_pure]

/-- A history of registrations makes the registry of its log.

**Proof sketch.** Induction on the history: each act does to the registry what it does to the
log. -/
theorem foldlM_apply (history : List (Registration ρ)) (log : List (Registry.Entry ρ)) :
    history.foldlM apply (Registry.ofEntries log) =
      Registry.ofEntries <$> history.foldlM record log := by
  induction history generalizing log with
  | nil => rw [List.foldlM_nil, List.foldlM_nil, map_pure]
  | cons registration history ih =>
    rw [List.foldlM_cons, List.foldlM_cons, apply_ofEntries, bind_map_left, map_bind]
    congr 1
    funext log'
    exact ih log'

/-- The registry that a history makes of the empty one, when `start` is the next serial
number. -/
def registryAfter (history : List (Registration ρ)) (start : Serial) : Registry ρ :=
  ((history.foldlM apply .empty).run start).1

/-- The log of a history, when `start` is the next serial number. -/
def logAfter (history : List (Registration ρ)) (start : Serial) : List (Registry.Entry ρ) :=
  ((history.foldlM record []).run start).1

/-- The registry after a history is that of its log. -/
lemma registryAfter_eq (history : List (Registration ρ)) (start : Serial) :
    registryAfter history start = Registry.ofEntries (logAfter history start) := by
  have run := congrArg (fun made : Fresh (Registry ρ) => (made.run start).1)
    (foldlM_apply history [])
  exact run

end Registration

namespace Registry

variable [∀ role, DecidableEq (ρ role)]

/-! ## Calls from the log alone -/

/-- The entry of a log that decides a call: the first one in the whole log that has the name and
accepts the types of the arguments. -/
def firstAccepting (log : List (Entry ρ)) (name : String) (types : List (TypeNode ρ)) :
    Option (Entry ρ) :=
  log.find? fun entry =>
    entry.name = name && Param.allSatisfy (types.map .type) entry.signature.slots

/-- The type that an entry gives to its result: always the same one, or what its function makes of
the arguments. -/
def Entry.typed (entry : Entry ρ) (arguments : List (Tagged ρ)) (next : Serial) :
    Except TypeFault (TypeNode ρ) × Serial :=
  match entry.implementation.resultType with
  | .constant node => (.ok node, next)
  | .computed rule => (rule arguments).runFrom next

/-- What an entry makes of arguments: first its rule for the type, then its rule for the
payload; the first failure decides. -/
def Entry.answer (entry : Entry ρ) (arguments : List (Tagged ρ)) (next : Serial) :
    Except DispatchFault (Tagged ρ) × Serial :=
  match entry.typed arguments next with
  | (.error fault, after) => (.error (.type fault), after)
  | (.ok node, after) =>
    match entry.implementation.compute arguments with
    | .error fault => (.error (.type fault), after)
    | .ok payload => (.ok ⟨node, payload⟩, after)

/-- The answer to a call from the log alone, when `next` is the next serial number. -/
def callByLog (log : List (Entry ρ)) (name : String) (arguments : List (Tagged ρ))
    (next : Serial) : Except DispatchFault (Tagged ρ) × Serial :=
  if ∃ entry ∈ log, entry.name = name then
    match firstAccepting log name (arguments.map (·.type)) with
    | some entry => entry.answer arguments next
    | none => (.error (.noMatch (arguments.map (·.type.display))), next)
  else (.error (.lookup (.unknownOperator name)), next)

omit [∀ role, DecidableEq (ρ role)] in
/-- The type that an implementation finds is the one that its entry gives to the result. -/
lemma runFrom_typeOf_entry (entry : Entry ρ) (arguments : List (Tagged ρ)) (next : Serial) :
    (entry.implementation.typeOf arguments).runFrom next = entry.typed arguments next := by
  rw [Implementation.typeOf, Entry.typed]
  cases entry.implementation.resultType <;> rfl

omit [∀ role, DecidableEq (ρ role)] in
/-- Calling the implementation of an entry is what the entry makes of arguments. -/
lemma runFrom_call_entry (entry : Entry ρ) (arguments : List (Tagged ρ)) (next : Serial) :
    ((entry.implementation.call arguments).mapFault DispatchFault.type).runFrom next =
      entry.answer arguments next := by
  rw [Minting.runFrom_mapFault, Entry.answer]
  have same_type := runFrom_typeOf_entry entry arguments next
  cases typed : entry.typed arguments next with
  | mk result after =>
    rw [typed] at same_type
    cases result with
    | error fault => rw [Implementation.call_of_type_fails same_type]
    | ok node =>
      rw [Implementation.call_of_type same_type]
      cases entry.implementation.compute arguments <;> rfl

omit [∀ role, DecidableEq (ρ role)] in
/-- There are overloads under a name exactly if the log has an entry with it. -/
lemma overloadsNamed_ne_nil_iff {log : List (Entry ρ)} {name : String} :
    overloadsNamed log name ≠ [] ↔ ∃ entry ∈ log, entry.name = name := by
  simp [overloadsNamed, List.filter_eq_nil_iff]

/-- The table of a name resolves arguments to the implementation of the deciding entry. -/
lemma get_ofOverloads_overloadsNamed (log : List (Entry ρ)) (name : String)
    (types : List (TypeNode ρ)) :
    (DispatchTable.ofOverloads (overloadsNamed log name)).get types =
      (firstAccepting log name types).map (·.implementation) := by
  rw [DispatchTable.get, DispatchTable.resolve_ofOverloads, overloadsNamed, List.find?_map,
    List.find?_filter, Option.map_map, firstAccepting]
  simp [Function.comp_def, Signature.accepts]

/-- A call to the registry of a log is answered from the log alone.

**Proof sketch.** Without an entry of the name there is no table.  Otherwise the table holds the
entries of the name, and the first of them that accepts is the first in the log that has the name
and accepts. -/
lemma runFrom_call_ofEntries (log : List (Entry ρ)) (name : String)
    (arguments : List (Tagged ρ)) (next : Serial) :
    ((ofEntries log).call name arguments).runFrom next = callByLog log name arguments next := by
  rw [call, getStrict, get?_ofEntries, callByLog]
  by_cases known : ∃ entry ∈ log, entry.name = name
  · rw [if_pos known, if_neg (overloadsNamed_ne_nil_iff.mpr known)]
    simp only [DispatchTable.call, get_ofOverloads_overloadsNamed]
    cases firstAccepting log name (arguments.map (·.type)) with
    | none => simp only [Option.map_none, Minting.runFrom_throw, List.map_map]; rfl
    | some entry => exact runFrom_call_entry entry arguments next
  · rw [if_neg known, if_pos (not_not.mp (overloadsNamed_ne_nil_iff.not.mpr known))]
    rfl

/-- An entry of a log that has the name and accepts the arguments first answers the call. -/
lemma callByLog_of_firstAccepting {log : List (Entry ρ)} {name : String}
    {arguments : List (Tagged ρ)} {entry : Entry ρ}
    (found : firstAccepting log name (arguments.map (·.type)) = some entry) (next : Serial) :
    callByLog log name arguments next = entry.answer arguments next := by
  have accepts := List.find?_some found
  rw [Bool.and_eq_true, decide_eq_true_iff] at accepts
  have known : ∃ entry ∈ log, entry.name = name :=
    ⟨entry, List.mem_of_find?_eq_some found, accepts.1⟩
  rw [callByLog, if_pos known, found]

/-- Once an entry of a log accepts, it decides, whatever is logged later. -/
lemma callByLog_append {log : List (Entry ρ)} {name : String} {arguments : List (Tagged ρ)}
    (found : (firstAccepting log name (arguments.map (·.type))).isSome = true)
    (later : List (Entry ρ)) (next : Serial) :
    callByLog (log ++ later) name arguments next = callByLog log name arguments next := by
  obtain ⟨entry, first⟩ := Option.isSome_iff_exists.mp found
  have first_later : firstAccepting (log ++ later) name (arguments.map (·.type)) = some entry := by
    rw [firstAccepting, List.find?_append]
    rw [firstAccepting] at first
    rw [first, Option.some_or]
  rw [callByLog_of_firstAccepting first, callByLog_of_firstAccepting first_later]

/-- Entries of other names do not take part in a call. -/
lemma callByLog_filter (log : List (Entry ρ)) (name : String) (arguments : List (Tagged ρ))
    (next : Serial) :
    callByLog (log.filter (·.name = name)) name arguments next =
      callByLog log name arguments next := by
  have known : (∃ entry ∈ log.filter (·.name = name), entry.name = name) ↔
      ∃ entry ∈ log, entry.name = name := by
    simp
  have first : firstAccepting (log.filter (·.name = name)) name (arguments.map (·.type)) =
      firstAccepting log name (arguments.map (·.type)) := by
    rw [firstAccepting, firstAccepting, List.find?_filter]
    congr 1
    funext entry
    by_cases here : entry.name = name <;> simp [here]
  simp only [callByLog, known, first]

/-- A call that finds no match says so with the texts of the types of the arguments. -/
lemma eq_of_callByLog_eq_noMatch {log : List (Entry ρ)} {name : String}
    {arguments : List (Tagged ρ)} {next after : Serial} {types : List String}
    (h : callByLog log name arguments next = (.error (.noMatch types), after)) :
    types = arguments.map (·.type.display) := by
  rw [callByLog] at h
  split at h
  · split at h
    · next entry _ =>
      rw [Entry.answer] at h
      split at h
      · simp at h
      · split at h <;> simp at h
    · simp only [Prod.mk.injEq, Except.error.injEq, DispatchFault.noMatch.injEq] at h
      exact h.1.symm
  · simp at h

/-- **Registries are flat logs.**  After any history of registrations a call by name is answered
from the log alone: an unknown name is a fault; otherwise the first entry in the whole log that
has the name and accepts the types of the arguments decides, with its rule for the type and then
its rule for the payload, and without such an entry the types of the arguments are reported.
Once an entry accepts, registrations to come do not matter, even if the entry fails;
registrations under other names never matter; and the report has the texts of the types, with
commas between them. -/
theorem call_eq_callByLog (history : List (Registration ρ)) (start next : Serial)
    (name : String) (arguments : List (Tagged ρ)) :
    ((Registration.registryAfter history start).call name arguments).runFrom next =
      callByLog (Registration.logAfter history start) name arguments next ∧
    (∀ later : List (Entry ρ),
      (firstAccepting (Registration.logAfter history start) name
        (arguments.map (·.type))).isSome = true →
      ((later.foldl addEntry (Registration.registryAfter history start)).call name
          arguments).runFrom next =
        ((Registration.registryAfter history start).call name arguments).runFrom next) ∧
    ((ofEntries ((Registration.logAfter history start).filter (·.name = name))).call name
        arguments).runFrom next =
      ((Registration.registryAfter history start).call name arguments).runFrom next ∧
    (∀ types after,
      ((Registration.registryAfter history start).call name arguments).runFrom next =
        (.error (.noMatch types), after) →
      (DispatchFault.noMatch types).diagnostic.message =
        "No implementation matches argument list (" ++
          ", ".intercalate (arguments.map (·.type.display)) ++ ")") := by
  rw [Registration.registryAfter_eq]
  refine ⟨runFrom_call_ofEntries _ name arguments next, fun later found => ?_, ?_,
    fun types after h => ?_⟩
  · rw [ofEntries, ← List.foldl_append, ← ofEntries, ← ofEntries, runFrom_call_ofEntries,
      runFrom_call_ofEntries, callByLog_append found]
  · rw [runFrom_call_ofEntries, runFrom_call_ofEntries, callByLog_filter]
  · rw [runFrom_call_ofEntries] at h
    rw [← eq_of_callByLog_eq_noMatch h]
    rfl

end Registry

end MultiDispatch
