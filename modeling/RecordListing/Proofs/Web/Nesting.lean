import Mathlib.Data.List.Induction
import RecordListing.Web.QueryString
import RecordListing.Proofs.Entries

/-!
# Nested entries

Putting a value under nested keys changes what is held there, and removes what was held under keys
that end on the way to it or go on beyond it. Everything else stays (`leafAt?_insertAt`). So entries
that are put in one after the other hold, under each run of keys, what has not been removed since
(`leafAt?_treeOf`).
-/

set_option autoImplicit false

namespace RecordListing

/-! ## Looking up nested keys -/

/-- What is held under nested keys, a map or a leaf. -/
def valueAt? : List String → List (String × Value) → Option Value
  | [], _ => none
  | [part], entries => entries.lookup part
  | part :: rest, entries => valueAt? rest (innerEntries (entries.lookup part))

/-- A value that is no map. -/
def leaf? : Option Value → Option Value
  | some (.map _) => none
  | held => held

/-- The leaf under nested keys. -/
def leafAt? (path : List String) (entries : List (String × Value)) : Option Value :=
  leaf? (valueAt? path entries)

/-- Whether of two runs of keys one goes on where the other ends. -/
def Conflict (a b : List String) : Prop := a ≠ b ∧ (a <+: b ∨ b <+: a)

instance (a b : List String) : Decidable (Conflict a b) := inferInstanceAs (Decidable (_ ∧ _))

theorem Conflict.symm {a b : List String} (h : Conflict a b) : Conflict b a :=
  ⟨h.1.symm, h.2.symm⟩

section
variable {part next : String} {rest path : List String} {value : String}
    {entries : List (String × Value)}

theorem valueAt?_cons (h : rest ≠ []) : valueAt? (part :: rest) entries =
    valueAt? rest (innerEntries (entries.lookup part)) := by
  cases rest with
  | nil => exact absurd rfl h
  | cons next rest => rfl

theorem insertAt_cons (h : rest ≠ []) : insertAt value (part :: rest) entries =
    putEntry part (.map (insertAt value rest (innerEntries (entries.lookup part)))) entries := by
  cases rest with
  | nil => exact absurd rfl h
  | cons next rest => rfl

theorem valueAt?_nil_entries (path : List String) : valueAt? path [] = none := by
  induction path with
  | nil => rfl
  | cons part rest ih =>
    cases rest with
    | nil => rfl
    | cons next rest => exact ih

end

/-- What a leaf holds after one more text: the text, or the list of all texts. -/
theorem collected_leaf? (old : Option Value) (value : String) :
    collected (leaf? old) value = collected old value := by
  cases old with
  | none => rfl
  | some held => cases held <;> rfl

theorem leaf?_collected (old : Option Value) (value : String) :
    leaf? (some (collected old value)) = some (collected old value) := by
  cases old with
  | none => rfl
  | some held => cases held <;> rfl

theorem innerEntries_collected (old : Option Value) (value : String) :
    innerEntries (some (collected old value)) = [] := by
  cases old with
  | none => rfl
  | some held => cases held <;> rfl

theorem conflict_cons_iff {part : String} {a b : List String} :
    Conflict (part :: a) (part :: b) ↔ Conflict a b := by
  simp [Conflict, List.cons_prefix_cons]

theorem not_conflict_of_ne {part name : String} (h : name ≠ part) (a b : List String) :
    ¬ Conflict (name :: a) (part :: b) := by
  rintro ⟨-, before | after⟩
  · exact h (List.cons_prefix_cons.1 before).1
  · exact h (List.cons_prefix_cons.1 after).1.symm

/-- Only what is held under its first key matters to a run of keys. -/
theorem leafAt?_putEntry_ne {part name : String} (h : name ≠ part) (held : Value)
    (others : List String) (entries : List (String × Value)) :
    leafAt? (name :: others) (putEntry part held entries) = leafAt? (name :: others) entries := by
  have same : (putEntry part held entries).lookup name = entries.lookup name := by
    rw [lookup_putEntry, if_neg h]
  cases others with
  | nil => simp only [leafAt?, valueAt?, same]
  | cons next others => simp only [leafAt?, valueAt?, same]

theorem leafAt?_cons {part : String} {rest : List String} (h : rest ≠ [])
    (entries : List (String × Value)) :
    leafAt? (part :: rest) entries = leafAt? rest (innerEntries (entries.lookup part)) := by
  rw [leafAt?, valueAt?_cons h, leafAt?]

theorem leafAt?_putEntry_self {part : String} (held : Value) {others : List String}
    (h : others ≠ []) (entries : List (String × Value)) :
    leafAt? (part :: others) (putEntry part held entries) =
      leafAt? others (innerEntries (some held)) := by
  rw [leafAt?_cons h, lookup_putEntry, if_pos rfl]

theorem leafAt?_putEntry_single (part : String) (held : Value) (entries : List (String × Value)) :
    leafAt? [part] (putEntry part held entries) = leaf? (some held) := by
  rw [leafAt?, valueAt?, lookup_putEntry, if_pos rfl]

/-- A value under one key takes the place of all that was held below it. -/
theorem leafAt?_insertAt_single (value part : String) {other : List String} (ho : other ≠ [])
    (entries : List (String × Value)) :
    leafAt? other (insertAt value [part] entries) =
      if other = [part] then some (collected (leafAt? [part] entries) value)
      else if Conflict other [part] then none
      else leafAt? other entries := by
  have put : insertAt value [part] entries =
      putEntry part (collected (entries.lookup part) value) entries := rfl
  cases other with
  | nil => exact absurd rfl ho
  | cons name others =>
    rw [put]
    by_cases first : name = part
    · subst first
      by_cases here : others = []
      · subst here
        rw [if_pos rfl, leafAt?_putEntry_single, leaf?_collected, leafAt?, valueAt?,
          collected_leaf?]
      · have beyond : Conflict (name :: others) [name] :=
          ⟨by simpa using here, .inr ⟨others, rfl⟩⟩
        rw [if_neg beyond.1, if_pos beyond, leafAt?_putEntry_self _ here,
          innerEntries_collected, leafAt?, valueAt?_nil_entries]
        rfl
    · have apart : name :: others ≠ [part] := fun h => first (List.cons.inj h).1
      rw [if_neg apart, if_neg (not_conflict_of_ne first _ _), leafAt?_putEntry_ne first]

/-- Putting a value under nested keys: what is held there takes it up, what stands in its way is
gone, and everything else stays. -/
theorem leafAt?_insertAt (value : String) {path : List String} (hp : path ≠ [])
    {other : List String} (ho : other ≠ []) (entries : List (String × Value)) :
    leafAt? other (insertAt value path entries) =
      if other = path then some (collected (leafAt? path entries) value)
      else if Conflict other path then none
      else leafAt? other entries := by
  induction path generalizing other entries with
  | nil => exact absurd rfl hp
  | cons part rest ih =>
    by_cases last : rest = []
    · subst last
      exact leafAt?_insertAt_single value part ho entries
    · cases other with
      | nil => exact absurd rfl ho
      | cons name others =>
        rw [insertAt_cons last]
        by_cases first : name = part
        · subst first
          by_cases here : others = []
          · subst here
            -- a value that is held here gives way to the entries below it
            have on_the_way : Conflict [name] (name :: rest) :=
              ⟨by simpa using Ne.symm last, .inl ⟨rest, rfl⟩⟩
            rw [if_neg on_the_way.1, if_pos on_the_way, leafAt?_putEntry_single]
            rfl
          · rw [leafAt?_putEntry_self _ here, leafAt?_cons last, leafAt?_cons here]
            simp only [List.cons.injEq, true_and, conflict_cons_iff]
            exact ih last here (innerEntries (entries.lookup name))
        · have apart : name :: others ≠ part :: rest := fun h => first (List.cons.inj h).1
          rw [if_neg apart, if_neg (not_conflict_of_ne first _ _), leafAt?_putEntry_ne first]

/-! ## Texts put in one after the other -/

/-- The entries that texts under runs of keys make. -/
def treeOf (pairs : List (List String × String)) : List (String × Value) :=
  pairs.foldl (fun entries pair => insertAt pair.2 pair.1 entries) []

/-- The pairs that no later one conflicts with. -/
def survivors : List (List String × String) → List (List String × String)
  | [] => []
  | pair :: later =>
    if ∃ other ∈ later, Conflict pair.1 other.1 then survivors later
    else pair :: survivors later

/-- The texts under a run of keys, in the order in which they come. -/
def textsAt (path : List String) (pairs : List (List String × String)) : List String :=
  (pairs.filter (·.1 = path)).map (·.2)

/-- What a leaf holds of texts: a single one as it is, several as a list. -/
def held : List String → Option Value
  | [] => none
  | [text] => some (.text text)
  | texts => some (.list (texts.map .text))

theorem held_append (texts : List String) (text : String) :
    held (texts ++ [text]) = some (collected (held texts) text) := by
  match texts with
  | [] => rfl
  | [first] => rfl
  | first :: next :: texts => simp [held, collected]

section
variable {pairs : List (List String × String)} {path : List String}

theorem textsAt_append (others : List (List String × String)) :
    textsAt path (pairs ++ others) = textsAt path pairs ++ textsAt path others := by
  simp [textsAt]

/-- Dropping pairs with other keys leaves the texts. -/
theorem textsAt_filter {kept : List String × String → Bool}
    (h : ∀ pair : List String × String, pair.1 = path → kept pair = true) :
    textsAt path (pairs.filter kept) = textsAt path pairs := by
  rw [textsAt, textsAt, List.filter_filter]
  congr 1
  apply List.filter_congr
  intro pair _
  by_cases here : pair.1 = path
  · simp [here, h pair here]
  · simp [here]

theorem textsAt_filter_none {kept : List String × String → Bool}
    (h : ∀ pair : List String × String, pair.1 = path → kept pair = false) :
    textsAt path (pairs.filter kept) = [] := by
  rw [textsAt, List.map_eq_nil_iff, List.filter_filter, List.filter_eq_nil_iff]
  intro pair _
  by_cases here : pair.1 = path
  · simp [here, h pair here]
  · simp [here]

theorem treeOf_append (pairs : List (List String × String)) (last : List String × String) :
    treeOf (pairs ++ [last]) = insertAt last.2 last.1 (treeOf pairs) := by
  simp [treeOf]

/-- One more pair ends those that it conflicts with. -/
theorem survivors_append (pairs : List (List String × String)) (last : List String × String) :
    survivors (pairs ++ [last]) =
      (survivors pairs).filter (fun pair => ¬ Conflict pair.1 last.1) ++ [last] := by
  induction pairs with
  | nil => simp [survivors]
  | cons pair later ih =>
    rw [List.cons_append, survivors, survivors, ih]
    by_cases before : ∃ other ∈ later, Conflict pair.1 other.1
    · have after : ∃ other ∈ later ++ [last], Conflict pair.1 other.1 := by
        obtain ⟨other, ho, conflict⟩ := before
        exact ⟨other, List.mem_append_left _ ho, conflict⟩
      rw [if_pos before, if_pos after]
    · rw [if_neg before]
      by_cases now : Conflict pair.1 last.1
      · rw [if_pos ⟨last, by simp, now⟩]
        simp [now]
      · have after : ¬ ∃ other ∈ later ++ [last], Conflict pair.1 other.1 := by
          rintro ⟨other, ho, conflict⟩
          rcases List.mem_append.1 ho with ho | ho
          · exact before ⟨other, ho, conflict⟩
          · exact now (List.mem_singleton.1 ho ▸ conflict)
        rw [if_neg after]
        simp [now]

theorem mem_of_mem_survivors {pair : List String × String} (h : pair ∈ survivors pairs) :
    pair ∈ pairs := by
  induction pairs with
  | nil => exact h
  | cons first later ih =>
    rw [survivors] at h
    split at h
    · exact List.mem_cons_of_mem _ (ih h)
    · rcases List.mem_cons.1 h with rfl | h
      · exact List.mem_cons_self
      · exact List.mem_cons_of_mem _ (ih h)

/-- Where no pairs conflict, all survive. -/
theorem survivors_eq (h : ∀ a ∈ pairs, ∀ b ∈ pairs, ¬ Conflict a.1 b.1) :
    survivors pairs = pairs := by
  induction pairs with
  | nil => rfl
  | cons pair later ih =>
    have none_later : ¬ ∃ other ∈ later, Conflict pair.1 other.1 := by
      rintro ⟨other, ho, conflict⟩
      exact h pair List.mem_cons_self other (List.mem_cons_of_mem _ ho) conflict
    rw [survivors, if_neg none_later,
      ih fun a ha b hb => h a (List.mem_cons_of_mem _ ha) b (List.mem_cons_of_mem _ hb)]

/-- A leaf holds the texts under its keys that survive, and nothing else. -/
theorem leafAt?_treeOf (h : ∀ pair ∈ pairs, pair.1 ≠ []) (hp : path ≠ []) :
    leafAt? path (treeOf pairs) = held (textsAt path (survivors pairs)) := by
  induction pairs using List.reverseRecOn with
  | nil => rw [treeOf, List.foldl_nil, leafAt?, valueAt?_nil_entries]; rfl
  | append_singleton pairs last ih =>
    have ih := ih fun pair hm => h pair (List.mem_append_left _ hm)
    have last_keys : last.1 ≠ [] := h last (by simp)
    -- what the last pair does to a leaf, it does to the texts that survive
    rw [treeOf_append, leafAt?_insertAt _ last_keys hp, survivors_append, textsAt_append]
    by_cases here : path = last.1
    · subst here
      have kept : textsAt last.1 ((survivors pairs).filter fun pair => ¬ Conflict pair.1 last.1) =
          textsAt last.1 (survivors pairs) :=
        textsAt_filter fun pair hk => by simp [Conflict, hk]
      have new : textsAt last.1 [last] = [last.2] := by simp [textsAt]
      rw [if_pos rfl, kept, new, held_append, ih]
    · have new : textsAt path [last] = [] := by simp [textsAt, Ne.symm here]
      rw [if_neg here, new, List.append_nil]
      by_cases gone : Conflict path last.1
      · rw [if_pos gone, textsAt_filter_none fun pair hk => by simp [hk, gone]]
        rfl
      · rw [if_neg gone, textsAt_filter fun pair hk => by simp [hk, gone], ih]

end

end RecordListing
