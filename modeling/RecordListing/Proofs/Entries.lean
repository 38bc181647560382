import Mathlib.Data.List.Induction
import Mathlib.Data.List.Nodup
import RecordListing.Json.Basic

/-!
# Entries by key

Putting a value under a key changes what is found under that key alone (`lookup_putEntry`) and keeps
the keys distinct (`nodup_putEntry`). Where they are distinct, what is found is what is there
(`lookup_eq_some_iff_mem`), and nothing is repeated (`withoutRepeats_eq_self`).
-/

set_option autoImplicit false

namespace RecordListing

theorem lookup_cons_eq_ite {κ α : Type} [BEq κ] [LawfulBEq κ] [DecidableEq κ] (key other : κ)
    (value : α) (entries : List (κ × α)) :
    ((key, value) :: entries).lookup other =
      if other = key then some value else entries.lookup other := by
  by_cases h : other = key
  · simp [h]
  · have apart : (other == key) = false := by simpa using h
    simp [List.lookup_cons, apart, h]

theorem lookup_putEntry {α : Type} (key other : String) (value : α) (entries : List (String × α)) :
    (putEntry key value entries).lookup other =
      if other = key then some value else entries.lookup other := by
  induction entries with
  | nil => exact lookup_cons_eq_ite key other value []
  | cons entry entries ih =>
    obtain ⟨name, kept⟩ := entry
    simp only [putEntry]
    split
    · rename_i he
      obtain rfl : name = key := he
      simp only [lookup_cons_eq_ite]
      split <;> rfl
    · rename_i he
      have ne : name ≠ key := he
      rw [lookup_cons_eq_ite, lookup_cons_eq_ite, ih]
      by_cases h : other = name
      · simp [h, ne]
      · simp [h]

theorem lookup_eq_some_iff_mem {α : Type} {entries : List (String × α)} {key : String} {value : α}
    (h : (entries.map (·.1)).Nodup) : entries.lookup key = some value ↔ (key, value) ∈ entries := by
  induction entries with
  | nil => simp
  | cons entry entries ih =>
    obtain ⟨name, kept⟩ := entry
    obtain ⟨fresh, rest⟩ := List.nodup_cons.1 h
    rw [lookup_cons_eq_ite, List.mem_cons, Prod.mk.injEq]
    by_cases here : key = name
    · subst here
      have gone : (key, value) ∉ entries := fun hm => fresh (List.mem_map.2 ⟨_, hm, rfl⟩)
      rw [if_pos rfl, Option.some.injEq]
      simp [gone, eq_comm]
    · rw [if_neg here, ih rest]
      simp [here]

theorem mem_keys_putEntry {α : Type} {key other : String} {value : α}
    {entries : List (String × α)} :
    other ∈ (putEntry key value entries).map (·.1) ↔ other = key ∨ other ∈ entries.map (·.1) := by
  induction entries with
  | nil => simp [putEntry]
  | cons entry entries ih =>
    unfold putEntry
    split
    · rename_i he
      simp [he]
    · simp only [List.map_cons, List.mem_cons, ih, or_left_comm]

theorem nodup_putEntry {α : Type} {key : String} {value : α} {entries : List (String × α)}
    (h : (entries.map (·.1)).Nodup) : ((putEntry key value entries).map (·.1)).Nodup := by
  induction entries with
  | nil => simp [putEntry]
  | cons entry entries ih =>
    obtain ⟨fresh, rest⟩ := List.nodup_cons.1 h
    unfold putEntry
    split
    · rename_i he
      exact List.nodup_cons.2 ⟨he ▸ fresh, rest⟩
    · rename_i he
      refine List.nodup_cons.2 ⟨fun hm => ?_, ih rest⟩
      exact (mem_keys_putEntry.1 hm).elim he fresh

theorem nodup_withoutRepeats {α : Type} (entries : List (String × α)) :
    ((withoutRepeats entries).map (·.1)).Nodup := by
  have kept (done : List (String × α)) (h : (done.map (·.1)).Nodup) :
      ((entries.foldl (fun kept entry => putEntry entry.1 entry.2 kept) done).map (·.1)).Nodup := by
    induction entries generalizing done with
    | nil => exact h
    | cons entry entries ih => exact ih _ (nodup_putEntry h)
  exact kept [] List.nodup_nil

/-- Entries that have every key once stay as they are. -/
theorem withoutRepeats_eq_self {α : Type} {entries : List (String × α)}
    (distinct : (entries.map (·.1)).Nodup) : withoutRepeats entries = entries := by
  have fresh {kept : List (String × α)} {key : String} {value : α} (h : key ∉ kept.map (·.1)) :
      putEntry key value kept = kept ++ [(key, value)] := by
    induction kept with
    | nil => rfl
    | cons entry kept ih =>
      obtain ⟨other, rest⟩ := not_or.1 (mt List.mem_cons.2 h)
      rw [putEntry, if_neg (Ne.symm other), ih rest, List.cons_append]
  induction entries using List.reverseRecOn with
  | nil => rfl
  | append_singleton entries last ih =>
    rw [List.map_append, List.nodup_append] at distinct
    obtain ⟨before, -, apart⟩ := distinct
    have put : withoutRepeats (entries ++ [last]) =
        putEntry last.1 last.2 (withoutRepeats entries) := by
      simp [withoutRepeats]
    rw [put, ih before, fresh fun hm => apart _ hm _ (by simp) rfl]

end RecordListing
