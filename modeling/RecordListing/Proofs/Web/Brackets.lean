import Mathlib.Data.List.Perm.Basic
import RecordListing.Proofs.Outcome
import RecordListing.Proofs.Web.BracketKeys
import RecordListing.Proofs.Web.Leaves

/-!
# Filters in brackets

The filters of a query string have as leaves the texts of those pairs that no later pair conflicts
with, and each group of filters has those of its own pairs (`readBrackets_writes`). Nothing else in
the query string matters, and where no pairs conflict nothing is lost when the filters are
flattened.
-/

set_option autoImplicit false

namespace RecordListing

open Text Outcome

/-! ## Pairs -/

/-- The pairs among the items of a query string whose keys spell a name with parts in brackets,
with those parts. -/
inductive PairsOf (name : String) :
    List (String × String) → List (List String × String) → Prop
  | none : PairsOf name [] []
  | pair {key value : String} {parts : List String} {items : List (String × String)}
      {pairs : List (List String × String)} (spelled : Spells key name parts)
      (rest : PairsOf name items pairs) :
      PairsOf name ((key, value) :: items) ((parts, value) :: pairs)
  | other {key value : String} {items : List (String × String)}
      {pairs : List (List String × String)} (unspelled : ∀ parts, ¬ Spells key name parts)
      (rest : PairsOf name items pairs) : PairsOf name ((key, value) :: items) pairs

/-- The pair that an item of a query string makes for a name. -/
def pairUnder? (name : String) (item : String × String) : Option (List String × String) :=
  match readBracketKey? item.1 with
  | some (read, parts) => if read = name then some (parts, item.2) else none
  | none => none

section
variable {name key value : String} {parts : List String} {items : List (String × String)}
    {pairs : List (List String × String)}

theorem pairUnder?_of_spells (hn : IsBracketName name) (h : Spells key name parts) :
    pairUnder? name (key, value) = some (parts, value) := by
  rw [pairUnder?, readBracketKey?_eq_some_iff.2 ⟨hn, h⟩]
  exact if_pos rfl

theorem pairUnder?_of_not_spells (h : ∀ parts, ¬ Spells key name parts) :
    pairUnder? name (key, value) = none := by
  rw [pairUnder?]
  split
  · rename_i read parts found
    by_cases same : read = name
    · exact absurd (same ▸ (spells_of_readBracketKey? found).2) (h parts)
    · exact if_neg same
  · rfl

theorem pairsOf_iff (hn : IsBracketName name) :
    PairsOf name items pairs ↔ pairs = items.filterMap (pairUnder? name) := by
  constructor
  · intro h
    induction h with
    | none => rfl
    | pair spelled rest ih =>
      rw [List.filterMap_cons_some (pairUnder?_of_spells hn spelled), ih]
    | other unspelled rest ih =>
      rw [List.filterMap_cons_none (pairUnder?_of_not_spells unspelled), ih]
  · rintro rfl
    induction items with
    | nil => exact .none
    | cons item items ih =>
      obtain ⟨key, value⟩ := item
      by_cases spelled : ∃ parts, Spells key name parts
      · obtain ⟨parts, spelled⟩ := spelled
        rw [List.filterMap_cons_some (pairUnder?_of_spells hn spelled)]
        exact .pair spelled ih
      · have unspelled : ∀ parts, ¬ Spells key name parts := not_exists.1 spelled
        rw [List.filterMap_cons_none (pairUnder?_of_not_spells unspelled)]
        exact .other unspelled ih

/-- Whether a pair has a key at all and no empty one. -/
def Filled (pair : List String × String) : Prop := pair.1 ≠ [] ∧ ∀ part ∈ pair.1, part ≠ ""

theorem PairsOf.filled (h : PairsOf name items pairs) : ∀ pair ∈ pairs, Filled pair := by
  induction h with
  | none => exact nofun
  | pair spelled rest ih =>
    have first := And.intro spelled.some_part fun part hm => (spelled.filled part hm).1
    exact List.forall_mem_cons.2 ⟨first, ih⟩
  | other unspelled rest ih => exact ih

end

/-! ## What pairs write -/

/-- Whether a tree of filters is what pairs write: its leaves are the texts that survive, and where
nothing conflicts its flat form has all texts under their keys with dots between them. -/
structure Writes (pairs : List (List String × String)) (tree : List (String × Value)) : Prop where
  regular : RegularEntries tree
  leaves : ∀ path value,
    (path, value) ∈ leavesBelow tree ↔ held (textsAt path (survivors pairs)) = some value
  flat : (∀ a ∈ pairs, ∀ b ∈ pairs, ¬ Conflict a.1 b.1) →
    (∀ pair ∈ pairs, ∀ part ∈ pair.1, '.' ∉ part.toList) →
    ∀ key value, (key, value) ∈ flattenFilters tree ↔
      ∃ path, key = joined "." path ∧ held (textsAt path pairs) = some value

theorem exists_pair_of_held {pairs : List (List String × String)} {path : List String}
    {value : Value} (h : held (textsAt path pairs) = some value) :
    ∃ pair ∈ pairs, pair.1 = path := by
  by_contra nothing
  have no_text : textsAt path pairs = [] := by
    rw [textsAt, List.map_eq_nil_iff, List.filter_eq_nil_iff]
    intro pair hm same
    exact nothing ⟨pair, hm, of_decide_eq_true same⟩
  rw [no_text] at h
  cases h

theorem writes_treeOf {pairs : List (List String × String)} (h : ∀ pair ∈ pairs, Filled pair) :
    Writes pairs (treeOf pairs) := by
  have keys : ∀ pair ∈ pairs, pair.1 ≠ [] := fun pair hm => (h pair hm).1
  refine ⟨regular_treeOf pairs, fun path value => mem_leavesBelow_treeOf keys, ?_⟩
  intro apart dotless key value
  have plain : ∀ leaf ∈ leavesBelow (treeOf pairs), Plain leaf.1 := by
    intro leaf hl part hm
    obtain ⟨pair, hp, same⟩ := exists_pair_of_held ((mem_leavesBelow_treeOf keys).1 hl)
    rw [← same] at hm
    have survived := mem_of_mem_survivors hp
    exact ⟨(h pair survived).2 part hm, dotless pair survived part hm⟩
  rw [mem_flattenFilters_iff (regular_treeOf pairs) plain]
  simp only [mem_leavesBelow_treeOf keys, survivors_eq apart]

theorem bracketFilters_eq (items : List (String × String)) :
    bracketFilters items = treeOf (items.filterMap (pairUnder? filtersName)) := by
  rw [treeOf, List.foldl_filterMap, bracketFilters]
  congr 1
  funext entries item
  obtain ⟨key, value⟩ := item
  simp only [pairUnder?]
  cases readBracketKey? key with
  | none => rfl
  | some read => by_cases same : read.1 = filtersName <;> simp [same]

/-! ## Groups -/

/-- What a pair has inside a group. -/
def pairInGroup? (group : String) (pair : List String × String) : Option (List String × String) :=
  match pair.1 with
  | name :: first :: rest => if name = group then some (first :: rest, pair.2) else none
  | _ => none

/-- The pairs of a group, with their keys inside it. -/
def pairsInGroup (group : String) (pairs : List (List String × String)) :
    List (List String × String) :=
  pairs.filterMap (pairInGroup? group)

/-- Adds a pair to the group that its first key names. -/
def addToGroup (groups : List (String × List (String × Value))) (pair : List String × String) :
    List (String × List (String × Value)) :=
  match pair.1 with
  | group :: first :: rest =>
    putEntry group (insertAt pair.2 (first :: rest) ((groups.lookup group).getD [])) groups
  | _ => groups

/-- The groups that pairs write. -/
def groupsOf (pairs : List (List String × String)) : List (String × List (String × Value)) :=
  pairs.foldl addToGroup []

theorem bracketGroups_eq (items : List (String × String)) :
    bracketGroups items = groupsOf (items.filterMap (pairUnder? groupsName)) := by
  rw [groupsOf, List.foldl_filterMap, bracketGroups]
  congr 1
  funext groups item
  obtain ⟨key, value⟩ := item
  simp only [pairUnder?]
  cases readBracketKey? key with
  | none => rfl
  | some read =>
    obtain ⟨name, parts⟩ := read
    by_cases same : name = groupsName
    · match parts with
      | [] | [_] | _ :: _ :: _ => simp [same, addToGroup]
    · match parts with
      | [] | [_] | _ :: _ :: _ => simp [same]

section
variable {group : String} {pairs : List (List String × String)}

theorem pairsInGroup_append (last : List String × String) :
    pairsInGroup group (pairs ++ [last]) =
      pairsInGroup group pairs ++ (pairInGroup? group last).toList := by
  rw [pairsInGroup, List.filterMap_append, pairsInGroup]
  cases found : pairInGroup? group last with
  | none => rw [List.filterMap_cons_none found]; rfl
  | some inside => rw [List.filterMap_cons_some found]; rfl

theorem filled_pairsInGroup (h : ∀ pair ∈ pairs, Filled pair) :
    ∀ pair ∈ pairsInGroup group pairs, Filled pair := by
  intro pair hm
  obtain ⟨whole, hw, found⟩ := List.mem_filterMap.1 hm
  have filled := (h whole hw).2
  unfold pairInGroup? at found
  split at found
  · rename_i name first rest keys
    split at found
    · cases found
      rw [keys] at filled
      exact ⟨List.cons_ne_nil _ _, fun part hp => filled part (List.mem_cons_of_mem _ hp)⟩
    · cases found
  · cases found

/-- A pair adds to the group that it names, and to no other. -/
theorem lookup_addToGroup (groups : List (String × List (String × Value)))
    (pair : List String × String) :
    (addToGroup groups pair).lookup group = match pairInGroup? group pair with
      | some inside => some (insertAt inside.2 inside.1 ((groups.lookup group).getD []))
      | none => groups.lookup group := by
  obtain ⟨keys, value⟩ := pair
  match keys with
  | [] | [_] => rfl
  | name :: first :: rest =>
    simp only [addToGroup, pairInGroup?, lookup_putEntry]
    by_cases same : name = group
    · subst same
      simp
    · rw [if_neg (Ne.symm same), if_neg same]

/-- A group is the tree that its own pairs make. -/
theorem lookup_groupsOf (group : String) (pairs : List (List String × String)) :
    (groupsOf pairs).lookup group = if pairsInGroup group pairs = [] then none
      else some (treeOf (pairsInGroup group pairs)) := by
  induction pairs using List.reverseRecOn with
  | nil => rfl
  | append_singleton pairs last ih =>
    have held_so_far : ((groupsOf pairs).lookup group).getD [] =
        treeOf (pairsInGroup group pairs) := by
      rw [ih]
      split
      · rename_i empty
        rw [empty]
        rfl
      · rfl
    have grown : groupsOf (pairs ++ [last]) = addToGroup (groupsOf pairs) last := by
      simp [groupsOf]
    rw [grown, lookup_addToGroup, pairsInGroup_append]
    cases pairInGroup? group last with
    | none =>
      rw [Option.toList_none, List.append_nil]
      exact ih
    | some inside =>
      have some_pair : pairsInGroup group pairs ++ [inside] ≠ [] := by simp
      rw [Option.toList_some, if_neg some_pair, treeOf_append, ← held_so_far]

end

theorem nodup_groupsOf (pairs : List (List String × String)) :
    ((groupsOf pairs).map (·.1)).Nodup := by
  induction pairs using List.reverseRecOn with
  | nil => exact List.nodup_nil
  | append_singleton pairs last ih =>
    rw [groupsOf, List.foldl_append, List.foldl_cons, List.foldl_nil, addToGroup]
    split
    · exact nodup_putEntry ih
    · exact ih

/-! ## Order of groups -/

section
variable {α : Type} {groups : List (String × α)}

theorem numbered_groups {numbered : List (Option Nat × α)}
    (h : (groups.mapM fun (key, group) => do return (← groupNumber? key, group)) = .ok numbered) :
    List.Forall₂ (fun (a : Option Nat × α) (b : String × α) => a.2 = b.2) numbered groups := by
  induction groups generalizing numbered with
  | nil =>
    cases h
    exact .nil
  | cons group groups ih =>
    simp only [List.mapM_cons, bind_eq_ok_iff, pure_eq, Except.ok.injEq] at h
    obtain ⟨first, ⟨number, -, rfl⟩, rest, hr, rfl⟩ := h
    exact .cons rfl (ih hr)

/-- Putting groups in order loses none and adds none. -/
theorem orderGroups_perm {ordered : List α} (h : orderGroups groups = .ok ordered) :
    ∃ named : List (String × α), named.Perm groups ∧ ordered = named.map (·.2) := by
  simp only [orderGroups, bind_eq_ok_iff] at h
  obtain ⟨numbered, hn, h⟩ := h
  cases h
  obtain ⟨named, same, perm⟩ :=
    List.perm_comp_forall₂ (List.mergeSort_perm numbered _) (numbered_groups hn)
  refine ⟨named, perm, ?_⟩
  rw [← List.forall₂_eq_eq_eq, List.forall₂_map_left_iff, List.forall₂_map_right_iff]
  exact same

end

/-! ## The filters of a query string -/

/-- Whether groups of filters are what pairs write: one group a first key, each from its own
pairs. -/
structure WriteGroups (pairs : List (List String × String))
    (named : List (String × List (String × Value))) : Prop where
  distinct : (named.map (·.1)).Nodup
  name : ∀ group, group ∈ named.map (·.1) ↔ pairsInGroup group pairs ≠ []
  each : ∀ group ∈ named, Writes (pairsInGroup group.1 pairs) group.2

theorem writeGroups_groupsOf {pairs : List (List String × String)}
    (h : ∀ pair ∈ pairs, Filled pair) : WriteGroups pairs (groupsOf pairs) := by
  have distinct := nodup_groupsOf pairs
  have found (group : String) (tree : List (String × Value)) :
      (group, tree) ∈ groupsOf pairs ↔
        pairsInGroup group pairs ≠ [] ∧ tree = treeOf (pairsInGroup group pairs) := by
    rw [← lookup_eq_some_iff_mem distinct, lookup_groupsOf]
    split
    · rename_i empty
      simp [empty]
    · rename_i some_pair
      simp [some_pair, eq_comm]
  refine ⟨distinct, fun group => ?_, ?_⟩
  · simp [found]
  · rintro ⟨group, tree⟩ hm
    obtain ⟨-, rfl⟩ := (found group tree).1 hm
    exact writes_treeOf (filled_pairsInGroup h)

theorem WriteGroups.perm {pairs : List (List String × String)}
    {named others : List (String × List (String × Value))} (h : WriteGroups pairs named)
    (same : others.Perm named) : WriteGroups pairs others := by
  refine ⟨?_, fun group => ?_, fun group hm => h.each group (same.mem_iff.1 hm)⟩
  · exact (same.map (·.1)).nodup_iff.2 h.distinct
  · rw [(same.map (·.1)).mem_iff]
    exact h.name group

/-- The filters and the groups of filters of a query string are what its own pairs write. -/
theorem readBrackets_writes {items : List (String × String)} {params : BracketParams}
    (h : readBrackets items = .ok params) :
    (∃ pairs, PairsOf filtersName items pairs ∧ Writes pairs params.filters) ∧
      ∃ pairs named, PairsOf groupsName items pairs ∧ WriteGroups pairs named ∧
        params.groups = named.map (·.2) := by
  simp only [readBrackets, bind_eq_ok_iff] at h
  obtain ⟨ordered, ho, h⟩ := h
  cases h
  have filters_name : IsBracketName filtersName := ⟨rfl, rfl⟩
  have groups_name : IsBracketName groupsName := ⟨rfl, rfl⟩
  have filter_pairs : PairsOf filtersName items _ := (pairsOf_iff filters_name).2 rfl
  have group_pairs : PairsOf groupsName items _ := (pairsOf_iff groups_name).2 rfl
  obtain ⟨named, perm, rfl⟩ := orderGroups_perm ho
  rw [bracketGroups_eq] at perm
  refine ⟨⟨_, filter_pairs, ?_⟩, _, named, group_pairs, ?_, rfl⟩
  · rw [bracketFilters_eq]
    exact writes_treeOf filter_pairs.filled
  · exact (writeGroups_groupsOf group_pairs.filled).perm perm

/-- Items with repeated keys, keys that conflict, and two groups. -/
def mixedItems : List (String × String) := [
  ("filters[status]", "open"), ("filters[status][like]", "op%"), ("filters[status]", "done"),
  ("filters[status]\n", "late"), ("page", "2"), ("orFilters[0][name]", "a"),
  ("orFilters[1][name]", "b"), ("orFilters[0]", "c")]

theorem readBrackets_writes_mixed :
    readBrackets mixedItems = .ok ⟨[("status", .list [.text "done", .text "late"])],
        [[("name", .text "a")], [("name", .text "b")]]⟩ ∧
      (∃ pairs, PairsOf filtersName mixedItems pairs ∧
        Writes pairs [("status", .list [.text "done", .text "late"])]) ∧
      ∃ pairs named, PairsOf groupsName mixedItems pairs ∧ WriteGroups pairs named ∧
        [[("name", .text "a")], [("name", .text "b")]] = named.map (·.2) := by
  have filters : bracketFilters mixedItems = [("status", .list [.text "done", .text "late"])] := rfl
  have groups : bracketGroups mixedItems =
      [("0", [("name", .text "a")]), ("1", [("name", .text "b")])] := rfl
  have read : readBrackets mixedItems = .ok ⟨[("status", .list [.text "done", .text "late"])],
      [[("name", .text "a")], [("name", .text "b")]]⟩ := by
    have in_order : [(some 0, [("name", Value.text "a")]), (some 1, [("name", .text "b")])].Pairwise
        fun a b => groupBefore a.1 b.1 = true := by simp [groupBefore]
    have ordered : orderGroups [("0", [("name", Value.text "a")]), ("1", [("name", .text "b")])] =
        .ok ((List.mergeSort [(some 0, [("name", .text "a")]), (some 1, [("name", .text "b")])]
          fun a b => groupBefore a.1 b.1).map (·.2)) := rfl
    rw [readBrackets, filters, groups, ordered, List.mergeSort_of_pairwise in_order]
    rfl
  exact ⟨read, readBrackets_writes read⟩

end RecordListing
