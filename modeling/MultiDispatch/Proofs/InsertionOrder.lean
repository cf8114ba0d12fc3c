import Mathlib.Algebra.GroupWithZero.Nat
import MultiDispatch.InsertionMap

set_option autoImplicit false
set_option relaxedAutoImplicit false

/-!
# The order of insertion

A map in order of insertion is made by replacements, each of which touches the value of one key.
Its keys are listed in the order of their first appearance, no key is listed twice, and the
values are what the keys are mapped to.

## Main results

* `MultiDispatch.InsertionMap.keys_alter_eq_eraseDups` — a replacement keeps the keys in order of
  first appearance.
* `MultiDispatch.InsertionMap.mem_values_iff` — the values are what is found under some key.
* `MultiDispatch.InsertionMap.mem_values_alter`, `MultiDispatch.InsertionMap.sum_values_alter` —
  what a replacement does to the values.
-/

namespace MultiDispatch.InsertionMap

variable {κ α : Type}

/-! ## Keys -/

/-- A map has as many keys as its size says. -/
lemma length_keys (map : InsertionMap κ α) : map.keys.length = map.size := by
  rw [keys, size, List.length_map]

/-- A map is empty exactly if it has no keys. -/
lemma isEmpty_iff {map : InsertionMap κ α} : map.isEmpty = true ↔ map.keys = [] := by
  rw [isEmpty, keys, List.isEmpty_iff, List.map_eq_nil_iff]

variable [DecidableEq κ]

/-- A key at the end of a list appears there first unless it is in the list before. -/
lemma eraseDups_append_singleton (appeared : List κ) (key : κ) :
    (appeared ++ [key]).eraseDups =
      if key ∈ appeared then appeared.eraseDups else appeared.eraseDups ++ [key] := by
  rw [List.eraseDups_append]
  by_cases known : key ∈ appeared <;> simp [List.removeAll, List.eraseDups_cons, known]

/-- Keys in order of first appearance stay so when a replacement makes one more key appear. -/
lemma keys_alter_eq_eraseDups {map : InsertionMap κ α} {appeared : List κ}
    (h : map.keys = appeared.eraseDups) (key : κ) (change : Option α → α) :
    (map.alter key change).keys = (appeared ++ [key]).eraseDups := by
  rw [keys_alter, eraseDups_append_singleton, h]
  simp only [List.mem_eraseDups]

/-- A replacement does not make a key appear twice. -/
lemma nodup_keys_alter {map : InsertionMap κ α} (h : map.keys.Nodup) (key : κ)
    (change : Option α → α) : (map.alter key change).keys.Nodup := by
  rw [keys_alter]
  split
  · exact h
  · next new =>
    refine List.nodup_append.mpr ⟨h, List.pairwise_singleton _ key, fun other there last here => ?_⟩
    rintro rfl
    exact new (List.mem_singleton.mp here ▸ there)

/-- A key is found exactly if it is listed. -/
lemma contains_iff {map : InsertionMap κ α} {key : κ} :
    map.contains key = true ↔ key ∈ map.keys := by
  obtain ⟨entries⟩ := map
  simp only [contains, get?, keys]
  induction entries with
  | nil => simp [find?]
  | cons entry rest ih =>
    obtain ⟨k, value⟩ := entry
    by_cases here : k = key
    · simp [find?, here]
    · simp [find?, here, Ne.symm here, ih]

/-! ## Values -/

/-- A value found under a key is listed. -/
lemma mem_values_of_get? {map : InsertionMap κ α} {key : κ} {value : α}
    (h : map.get? key = some value) : value ∈ map.values := by
  obtain ⟨entries⟩ := map
  simp only [get?, values] at h ⊢
  induction entries with
  | nil => cases h
  | cons entry rest ih =>
    obtain ⟨k, first⟩ := entry
    rw [find?] at h
    split at h
    · obtain rfl : first = value := Option.some.inj h
      exact List.mem_cons_self
    · exact List.mem_cons_of_mem _ (ih h)

/-- If no key is listed twice, the values are what is found under the keys. -/
lemma mem_values_iff {map : InsertionMap κ α} (distinct : map.keys.Nodup) {value : α} :
    value ∈ map.values ↔ ∃ key, map.get? key = some value := by
  refine ⟨fun h => ?_, fun ⟨_, found⟩ => mem_values_of_get? found⟩
  obtain ⟨entries⟩ := map
  simp only [get?, values, keys] at distinct h ⊢
  induction entries with
  | nil => cases h
  | cons entry rest ih =>
    obtain ⟨k, first⟩ := entry
    rw [List.map_cons, List.nodup_cons] at distinct
    rcases List.mem_cons.mp h with rfl | later
    · exact ⟨k, by rw [find?, if_pos rfl]⟩
    · obtain ⟨key, found⟩ := ih distinct.2 later
      -- the key found further on is listed there, so it is not the first one
      have listed : key ∈ (mk rest).keys :=
        contains_iff.mp (Option.isSome_iff_exists.mpr ⟨value, found⟩)
      have other : k ≠ key := fun same => distinct.1 (same ▸ listed)
      exact ⟨key, by rw [find?, if_neg other, found]⟩

/-- After a replacement a value is one that was there before or the new one. -/
lemma mem_values_alter {map : InsertionMap κ α} {key : κ} {change : Option α → α} {value : α}
    (h : value ∈ (map.alter key change).values) :
    value ∈ map.values ∨ value = change (map.get? key) := by
  obtain ⟨entries⟩ := map
  simp only [alter, values, get?] at h ⊢
  induction entries with
  | nil => exact Or.inr (List.mem_singleton.mp h)
  | cons entry rest ih =>
    obtain ⟨k, first⟩ := entry
    rw [alterEntries] at h
    rw [find?]
    split at h
    · next here =>
      rw [if_pos here]
      rcases List.mem_cons.mp h with rfl | later
      · exact Or.inr rfl
      · exact Or.inl (List.mem_cons_of_mem _ later)
    · next other =>
      rw [if_neg other]
      rcases List.mem_cons.mp h with rfl | later
      · exact Or.inl List.mem_cons_self
      · exact (ih later).imp_left (List.mem_cons_of_mem _)

/-- If a replacement makes a measure of one value larger by an amount, the sum over all values is
larger by this amount. -/
lemma sum_values_alter (map : InsertionMap κ α) (key : κ) {change : Option α → α}
    (measure : α → Nat) {amount : Nat} (new : measure (change none) = amount)
    (old : ∀ value, measure (change (some value)) = measure value + amount) :
    ((map.alter key change).values.map measure).sum =
      (map.values.map measure).sum + amount := by
  obtain ⟨entries⟩ := map
  simp only [alter, values]
  induction entries with
  | nil => simp [alterEntries, new]
  | cons entry rest ih =>
    obtain ⟨k, value⟩ := entry
    rw [alterEntries]
    split
    · simp only [List.map_cons, List.sum_cons, old]
      omega
    · simp only [List.map_cons, List.sum_cons, ih]
      omega

end MultiDispatch.InsertionMap
