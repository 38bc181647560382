import RecordListing.Query.FilterTerm
import RecordListing.Proofs.Query.FilterKeys
import RecordListing.Proofs.Text.Pieces
import RecordListing.Proofs.Web.Nesting

/-!
# Leaves of filter maps

What a map of filters holds besides maps, each with the keys that lead there (`leavesBelow`). Where
no key comes twice, a leaf is what is found under its keys (`mem_leavesBelow_iff`). Flattening
writes the keys of a leaf with dots between them (`mem_flattenFilters_iff`).
-/

set_option autoImplicit false

namespace RecordListing

open Text

/-! ## Regular maps -/

mutual

/-- Whether no map inside a value is empty or has a key twice. -/
def Value.Regular : Value → Prop
  | .map entries => entries ≠ [] ∧ RegularEntries entries
  | _ => True

/-- Whether no key comes twice, here or further inside, and no map inside is empty. -/
def RegularEntries : List (String × Value) → Prop
  | [] => True
  | (key, value) :: entries => key ∉ entries.map (·.1) ∧ value.Regular ∧ RegularEntries entries

end

theorem regularEntries_iff {entries : List (String × Value)} :
    RegularEntries entries ↔
      (entries.map (·.1)).Nodup ∧ ∀ entry ∈ entries, entry.2.Regular := by
  induction entries with
  | nil => simp [RegularEntries]
  | cons entry entries ih =>
    rw [RegularEntries, ih, List.map_cons, List.nodup_cons, List.forall_mem_cons]
    tauto

theorem mem_putEntry_iff {α : Type} {entries : List (String × α)} {key other : String}
    {value held : α} (h : (entries.map (·.1)).Nodup) :
    (other, held) ∈ putEntry key value entries ↔
      if other = key then value = held else (other, held) ∈ entries := by
  rw [← lookup_eq_some_iff_mem (nodup_putEntry h), lookup_putEntry]
  split
  · rw [Option.some.injEq]
  · rw [lookup_eq_some_iff_mem h]

theorem regular_innerEntries {entries : List (String × Value)} (h : RegularEntries entries)
    (key : String) : RegularEntries (innerEntries (entries.lookup key)) := by
  obtain ⟨distinct, inside⟩ := regularEntries_iff.1 h
  cases found : entries.lookup key with
  | none => exact trivial
  | some held =>
    have regular := inside _ ((lookup_eq_some_iff_mem distinct).1 found)
    cases held with
    | map inner => exact regular.2
    | _ => exact trivial

theorem regular_putEntry {entries : List (String × Value)} (h : RegularEntries entries)
    {value : Value} (hv : value.Regular) (key : String) :
    RegularEntries (putEntry key value entries) := by
  obtain ⟨distinct, inside⟩ := regularEntries_iff.1 h
  refine regularEntries_iff.2 ⟨nodup_putEntry distinct, ?_⟩
  rintro ⟨other, held⟩ hm
  rw [mem_putEntry_iff distinct] at hm
  split at hm
  · exact hm ▸ hv
  · exact inside _ hm

theorem regular_collected (old : Option Value) (value : String) :
    (collected old value).Regular := by
  unfold collected
  split <;> trivial

theorem insertAt_ne_nil (value : String) {path : List String} (hp : path ≠ [])
    (entries : List (String × Value)) : insertAt value path entries ≠ [] := by
  have some_key (key : String) (held : Value) : putEntry key held entries ≠ [] := by
    cases entries with
    | nil => exact List.cons_ne_nil _ _
    | cons entry entries =>
      unfold putEntry
      split <;> exact List.cons_ne_nil _ _
  cases path with
  | nil => exact absurd rfl hp
  | cons part rest =>
    cases rest with
    | nil => exact some_key _ _
    | cons next rest => exact some_key _ _

/-- Putting a value under nested keys leaves a map regular. -/
theorem regular_insertAt (value : String) {entries : List (String × Value)}
    (h : RegularEntries entries) (path : List String) :
    RegularEntries (insertAt value path entries) := by
  induction path generalizing entries with
  | nil => exact h
  | cons part rest ih =>
    by_cases last : rest = []
    · subst last
      exact regular_putEntry h (regular_collected _ _) part
    · have inner := ih (regular_innerEntries h part)
      rw [insertAt_cons last]
      apply regular_putEntry h
      rw [Value.Regular]
      exact ⟨insertAt_ne_nil value last _, inner⟩

theorem regular_treeOf (pairs : List (List String × String)) : RegularEntries (treeOf pairs) := by
  induction pairs using List.reverseRecOn with
  | nil => exact trivial
  | append_singleton pairs last ih =>
    rw [treeOf_append]
    exact regular_insertAt _ ih _

/-! ## Leaves -/

mutual

/-- The leaves of a value, each with the keys that lead to it. -/
def Value.leaves : Value → List (List String × Value)
  | .map entries => leavesBelow entries
  | value => [([], value)]

/-- The leaves below the entries of a map. -/
def leavesBelow : List (String × Value) → List (List String × Value)
  | [] => []
  | (key, value) :: entries =>
    value.leaves.map (fun leaf => (key :: leaf.1, leaf.2)) ++ leavesBelow entries

end

theorem mem_leavesBelow {entries : List (String × Value)} {path : List String} {value : Value} :
    (path, value) ∈ leavesBelow entries ↔ ∃ key rest held, path = key :: rest ∧
      (key, held) ∈ entries ∧ (rest, value) ∈ held.leaves := by
  induction entries with
  | nil => simp [leavesBelow]
  | cons entry entries ih =>
    rw [leavesBelow, List.mem_append, ih]
    constructor
    · rintro (here | ⟨key, rest, held, rfl, hm, hl⟩)
      · obtain ⟨leaf, hl, same⟩ := List.mem_map.1 here
        cases same
        exact ⟨entry.1, leaf.1, entry.2, rfl, List.mem_cons_self, hl⟩
      · exact ⟨key, rest, held, rfl, List.mem_cons_of_mem _ hm, hl⟩
    · rintro ⟨key, rest, held, rfl, hm, hl⟩
      rcases List.mem_cons.1 hm with rfl | hm
      · exact .inl (List.mem_map.2 ⟨_, hl, rfl⟩)
      · exact .inr ⟨key, rest, held, rfl, hm, hl⟩

section
variable {entries : List (String × Value)} {path : List String} {value held : Value}

theorem mem_leavesBelow_cons (h : (entries.map (·.1)).Nodup) (key : String) (rest : List String) :
    (key :: rest, value) ∈ leavesBelow entries ↔
      ∃ held, entries.lookup key = some held ∧ (rest, value) ∈ held.leaves := by
  simp [mem_leavesBelow, lookup_eq_some_iff_mem h]

theorem path_ne_nil_of_mem_leavesBelow (h : (path, value) ∈ leavesBelow entries) : path ≠ [] := by
  obtain ⟨key, rest, held, rfl, -⟩ := mem_leavesBelow.1 h
  exact List.cons_ne_nil _ _

theorem nil_mem_leaves_iff : ([], value) ∈ held.leaves ↔ leaf? (some held) = some value := by
  cases held with
  | map inner =>
    have below : ([], value) ∉ leavesBelow inner := fun h => path_ne_nil_of_mem_leavesBelow h rfl
    simpa [Value.leaves, leaf?] using below
  | _ => simp [Value.leaves, leaf?, eq_comm]

theorem mem_leaves_iff_of_ne (hp : path ≠ []) :
    (path, value) ∈ held.leaves ↔ (path, value) ∈ leavesBelow (innerEntries (some held)) := by
  cases held with
  | map inner => exact Iff.rfl
  | _ => simp [Value.leaves, innerEntries, leavesBelow, hp]

/-- A leaf of a regular map is what is found under its keys. -/
theorem mem_leavesBelow_iff (h : RegularEntries entries) :
    (path, value) ∈ leavesBelow entries ↔ leafAt? path entries = some value := by
  induction path generalizing entries with
  | nil =>
    constructor
    · intro hm
      exact absurd rfl (path_ne_nil_of_mem_leavesBelow hm)
    · rintro ⟨⟩
  | cons key rest ih =>
    rw [mem_leavesBelow_cons (regularEntries_iff.1 h).1]
    by_cases last : rest = []
    · subst last
      rw [leafAt?, valueAt?]
      cases entries.lookup key with
      | none => simp [leaf?]
      | some held => simp [nil_mem_leaves_iff]
    · have inner := ih (regular_innerEntries h key)
      rw [leafAt?_cons last, ← inner]
      cases entries.lookup key with
      | none => simp [innerEntries, leavesBelow]
      | some held => simp [mem_leaves_iff_of_ne last]

/-- Keys lead to one leaf at most. -/
theorem eq_of_mem_leavesBelow (h : RegularEntries entries) {other : Value}
    (hv : (path, value) ∈ leavesBelow entries) (ho : (path, other) ∈ leavesBelow entries) :
    value = other := by
  rw [mem_leavesBelow_iff h] at hv ho
  exact Option.some.inj (hv.symm.trans ho)

end

/-! ## Flattening -/

mutual

theorem leavesOf_eq (base : String) : ∀ value : Value,
    leavesOf base value = value.leaves.map fun leaf => (leaf.1.foldl subKey base, leaf.2)
  | .map entries => leavesIn_eq base entries
  | .null | .bool _ | .int _ | .text _ | .float _ | .decimal _ | .special _ | .uuid _ | .date _
  | .datetime _ | .member _ | .list _ => rfl

/-- Flattening goes from leaf to leaf and writes the keys that lead there. -/
theorem leavesIn_eq (base : String) : ∀ entries : List (String × Value),
    leavesIn base entries =
      (leavesBelow entries).map fun leaf => (leaf.1.foldl subKey base, leaf.2)
  | [] => rfl
  | (key, value) :: entries => by
    rw [leavesIn, leavesBelow, leavesOf_eq, leavesIn_eq, List.map_append, List.map_map]
    rfl

end

/-- A tree has as its leaves what the texts that survive make under their keys. -/
theorem mem_leavesBelow_treeOf {pairs : List (List String × String)} {path : List String}
    {value : Value} (h : ∀ pair ∈ pairs, pair.1 ≠ []) :
    (path, value) ∈ leavesBelow (treeOf pairs) ↔
      held (textsAt path (survivors pairs)) = some value := by
  by_cases hp : path = []
  · subst hp
    have nothing : textsAt [] (survivors pairs) = [] := by
      rw [textsAt, List.map_eq_nil_iff, List.filter_eq_nil_iff]
      intro pair hm
      simpa using h pair (mem_of_mem_survivors hm)
    rw [nothing]
    constructor
    · intro hm
      exact absurd rfl (path_ne_nil_of_mem_leavesBelow hm)
    · rintro ⟨⟩
  · rw [mem_leavesBelow_iff (regular_treeOf pairs), leafAt?_treeOf h hp]

/-! ## Dots -/

/-- Whether keys can be told apart when they are written with dots between them. -/
def Plain (path : List String) : Prop := ∀ part ∈ path, part ≠ "" ∧ '.' ∉ part.toList

theorem joined_dot_cons (first next : String) (rest : List String) :
    joined "." ((first ++ "." ++ next) :: rest) = joined "." (first :: next :: rest) := by
  cases rest with
  | nil => rfl
  | cons last rest => simp only [joined, String.append_assoc]

theorem foldl_subKey {base : String} (hb : base ≠ "") {path : List String}
    (hp : ∀ part ∈ path, part ≠ "") : path.foldl subKey base = joined "." (base :: path) := by
  induction path generalizing base with
  | nil => rfl
  | cons part rest ih =>
    have below : subKey base part = base ++ "." ++ part := by simp [subKey, hb]
    have some_text : base ++ "." ++ part ≠ "" := by simp [hb]
    rw [List.foldl_cons, below, ih some_text fun other ho => hp other (List.mem_cons_of_mem _ ho),
      joined_dot_cons]

theorem foldl_subKey_nil {path : List String} (hp : ∀ part ∈ path, part ≠ "") :
    path.foldl subKey "" = joined "." path := by
  cases path with
  | nil => rfl
  | cons first rest =>
    obtain ⟨some_first, some_rest⟩ := List.forall_mem_cons.1 hp
    exact foldl_subKey some_first some_rest

theorem joined_dot_inj {a b : List String} (ha : Plain a) (hb : Plain b) (some_a : a ≠ [])
    (some_b : b ≠ []) (h : joined "." a = joined "." b) : a = b := by
  have cut_a := pieces_joined some_a fun part hm => (ha part hm).2
  have cut_b := pieces_joined some_b fun part hm => (hb part hm).2
  have dot : String.singleton '.' = "." := rfl
  rw [dot] at cut_a cut_b
  rw [← cut_a, h, cut_b]

/-! ## One entry a key -/

/-- Entries that never hold two values under a key all stay. -/
theorem mem_withoutRepeats_iff {α : Type} {entries : List (String × α)}
    (single : ∀ key, ∀ a b, (key, a) ∈ entries → (key, b) ∈ entries → a = b)
    {key : String} {value : α} :
    (key, value) ∈ withoutRepeats entries ↔ (key, value) ∈ entries := by
  induction entries using List.reverseRecOn with
  | nil => exact Iff.rfl
  | append_singleton entries last ih =>
    have ih := ih fun key a b ha hb =>
      single key a b (List.mem_append_left _ ha) (List.mem_append_left _ hb)
    obtain ⟨name, held⟩ := last
    have put : withoutRepeats (entries ++ [(name, held)]) =
        putEntry name held (withoutRepeats entries) := by simp [withoutRepeats]
    rw [put, mem_putEntry_iff (nodup_withoutRepeats entries), List.mem_append, List.mem_singleton,
      Prod.mk.injEq, ih]
    by_cases here : key = name
    · subst here
      rw [if_pos rfl]
      constructor
      · intro same
        exact .inr ⟨rfl, same.symm⟩
      · rintro (before | ⟨-, same⟩)
        · exact single key _ _ (by simp) (List.mem_append_left _ before)
        · exact same.symm
    · rw [if_neg here]
      simp [here]

/-- Flattening gives the leaves, under their keys with dots between them. -/
theorem mem_flattenFilters_iff {entries : List (String × Value)} (h : RegularEntries entries)
    (plain : ∀ leaf ∈ leavesBelow entries, Plain leaf.1) {key : String} {value : Value} :
    (key, value) ∈ flattenFilters entries ↔
      ∃ path, key = joined "." path ∧ (path, value) ∈ leavesBelow entries := by
  have written : ∀ key value, (key, value) ∈ leavesIn "" entries ↔
      ∃ path, key = joined "." path ∧ (path, value) ∈ leavesBelow entries := by
    intro key value
    rw [leavesIn_eq, List.mem_map]
    constructor
    · rintro ⟨leaf, hl, same⟩
      cases same
      exact ⟨leaf.1, foldl_subKey_nil fun part hm => (plain leaf hl part hm).1, hl⟩
    · rintro ⟨path, rfl, hl⟩
      refine ⟨_, hl, ?_⟩
      rw [foldl_subKey_nil fun part hm => (plain _ hl part hm).1]
  rw [flattenFilters, mem_withoutRepeats_iff, written]
  intro key a b ha hb
  obtain ⟨path, rfl, hp⟩ := (written _ _).1 ha
  obtain ⟨other, same, ho⟩ := (written _ _).1 hb
  obtain rfl := joined_dot_inj (plain _ hp) (plain _ ho) (path_ne_nil_of_mem_leavesBelow hp)
    (path_ne_nil_of_mem_leavesBelow ho) same
  exact eq_of_mem_leavesBelow h hp ho

end RecordListing
