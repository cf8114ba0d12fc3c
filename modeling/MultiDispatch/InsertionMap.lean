set_option autoImplicit false
set_option relaxedAutoImplicit false

/-!
# Maps in order of insertion

A map that keeps its keys in the order in which they first came in.  A key that comes in again
keeps its place.

## Main definitions

* `MultiDispatch.InsertionMap` — the map, a list of keys with their values.
* `MultiDispatch.InsertionMap.get?` — the value of a key.
* `MultiDispatch.InsertionMap.alter` — replaces the value of a key, or puts a new key at the end.

## Main results

* `MultiDispatch.InsertionMap.get?_alter` — what is found after a replacement.
* `MultiDispatch.InsertionMap.keys_alter` — a replacement adds at most its key, at the end.
-/

namespace MultiDispatch

/-- Keys with their values, in order of first insertion. -/
structure InsertionMap (κ α : Type) where
  entries : List (κ × α)

namespace InsertionMap

variable {κ α : Type}

/-- The map without keys. -/
def empty : InsertionMap κ α := ⟨[]⟩

/-- The keys in order. -/
def keys (map : InsertionMap κ α) : List κ := map.entries.map (·.1)

/-- The values in the order of their keys. -/
def values (map : InsertionMap κ α) : List α := map.entries.map (·.2)

/-- The number of keys. -/
def size (map : InsertionMap κ α) : Nat := map.entries.length

/-- Whether there are no keys. -/
def isEmpty (map : InsertionMap κ α) : Bool := map.entries.isEmpty

variable [DecidableEq κ]

/-- The value of a key in a list of entries. -/
def find? (key : κ) : List (κ × α) → Option α
  | [] => none
  | (k, value) :: rest => if k = key then some value else find? key rest

/-- The value of a key. -/
def get? (map : InsertionMap κ α) (key : κ) : Option α := find? key map.entries

/-- Whether a key is in the map. -/
def contains (map : InsertionMap κ α) (key : κ) : Bool := (map.get? key).isSome

/-- The entries with the value of a key replaced; a new key goes to the end. -/
def alterEntries (key : κ) (change : Option α → α) : List (κ × α) → List (κ × α)
  | [] => [(key, change none)]
  | (k, value) :: rest =>
    if k = key then (k, change (some value)) :: rest
    else (k, value) :: alterEntries key change rest

/-- Replaces the value of a key by a function of the old value; a new key goes to the end. -/
def alter (map : InsertionMap κ α) (key : κ) (change : Option α → α) : InsertionMap κ α :=
  ⟨alterEntries key change map.entries⟩

/-- Sets the value of a key; a new key goes to the end. -/
def insert (map : InsertionMap κ α) (key : κ) (value : α) : InsertionMap κ α :=
  map.alter key fun _ => value

/-- After a replacement the key has the new value and every other key its old one. -/
theorem get?_alter (map : InsertionMap κ α) (key other : κ) (change : Option α → α) :
    (map.alter key change).get? other =
      if key = other then some (change (map.get? key)) else map.get? other := by
  obtain ⟨entries⟩ := map
  simp only [alter, get?]
  induction entries with
  | nil => simp [alterEntries, find?]
  | cons entry rest ih =>
    obtain ⟨k, value⟩ := entry
    by_cases same : k = key
    · subst same
      by_cases here : k = other <;> simp [alterEntries, find?, here]
    · by_cases here : k = other
      · subst here
        simp [alterEntries, find?, same, Ne.symm same]
      · simp [alterEntries, find?, same, here, ih]

/-- A replacement keeps the keys and their order; a new key comes last. -/
theorem keys_alter (map : InsertionMap κ α) (key : κ) (change : Option α → α) :
    (map.alter key change).keys = if key ∈ map.keys then map.keys else map.keys ++ [key] := by
  obtain ⟨entries⟩ := map
  simp only [alter, keys]
  induction entries with
  | nil => simp [alterEntries]
  | cons entry rest ih =>
    obtain ⟨k, value⟩ := entry
    by_cases same : k = key
    · simp [alterEntries, same]
    · simp only [alterEntries, same, if_false, List.map_cons, ih, List.mem_cons,
        Ne.symm same, false_or]
      split <;> simp_all

end InsertionMap

end MultiDispatch
