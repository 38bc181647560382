import Mathlib.Data.List.Pairwise
import Mathlib.Data.List.Sublists
import RecordListing.Proofs.Query.JoinOrder
import RecordListing.Proofs.Text.Digits
import RecordListing.Proofs.Web.Brackets

/-!
# The order of groups

The groups of filters of a query string come in the order of their keys (`Precedes`): those whose
keys are numerals first, by number, then the others, and otherwise in the order in which the keys
appear first. A key that looks like a numeral and is none, or is a very long one, makes the whole
query string unreadable (`readBrackets_in_order`).
-/

set_option autoImplicit false

namespace RecordListing

open Text Outcome

/-! ## Keys as numerals -/

/-- The number that a key writes, if it has decimal digits, of any script, and nothing else. -/
def numberOf? (key : String) : Option Nat :=
  if key = "" then none else (key.toList.mapM digitValue?).map ofDigitValues

/-- Whether a key can be read as a numeral if it looks like one: where it has only digit signs, all
of them are decimal digits, and there are not too many. -/
def IsReadableKey (key : String) : Prop :=
  (∀ c ∈ key.toList, isDigitSign c = true) →
    (∀ c ∈ key.toList, isDecimalDigit c = true) ∧ key.toList.length ≤ Crash.digitLimit

section
variable {key : String}

theorem groupNumber?_of_readable (h : IsReadableKey key) :
    groupNumber? key = .ok (numberOf? key) := by
  by_cases empty : key = ""
  · subst empty
    rfl
  have no_char : key.toList ≠ [] := mt String.toList_eq_nil_iff.1 empty
  rw [groupNumber?, numberOf?, if_neg empty]
  by_cases signs : ∀ c ∈ key.toList, isDigitSign c = true
  · obtain ⟨decimal, bearable⟩ := h signs
    obtain ⟨digits, read⟩ := exists_mapM_eq_some_iff.2 decimal
    have short : ¬ Crash.digitLimit < digits.length := by
      rw [length_values read]
      exact Nat.not_lt.2 bearable
    simp [no_char, List.all_eq_true.2 signs, read, short]
  · have unread : key.toList.mapM digitValue? = none := by
      rw [Option.eq_none_iff_forall_ne_some]
      intro digits read
      refine signs fun c hc => ?_
      rw [isDigitSign, isDecimalDigit_of_values read c hc, Bool.true_or]
    have other : key.toList.all isDigitSign = false :=
      Bool.eq_false_iff.2 fun all => signs (List.all_eq_true.1 all)
    simp [other, unread]

theorem groupNumber?_of_not_readable (h : ¬ IsReadableKey key) :
    ∃ failure, groupNumber? key = .error failure := by
  unfold IsReadableKey at h
  obtain ⟨signs, unbearable⟩ := Classical.not_imp.1 h
  have some_char : key.toList ≠ [] := by
    intro no_char
    rw [no_char] at unbearable
    exact unbearable ⟨nofun, Nat.zero_le _⟩
  have looks : (key.toList.isEmpty || !key.toList.all isDigitSign) = false := by
    simp [some_char, List.all_eq_true.2 signs]
  rw [groupNumber?, looks]
  cases read : key.toList.mapM digitValue? with
  | none => exact ⟨_, rfl⟩
  | some digits =>
    have long : Crash.digitLimit < digits.length := by
      rw [length_values read]
      have decimal := isDecimalDigit_of_values read
      exact Nat.lt_of_not_le fun bearable => unbearable ⟨decimal, bearable⟩
    refine ⟨.crash (.tooManyDigits digits.length), ?_⟩
    rw [if_neg (by simp)]
    exact if_pos long

end

/-! ## The order of appearance -/

/-- The keys of groups that pairs name, as they come. -/
def groupKeys (pairs : List (List String × String)) : List String :=
  pairs.filterMap fun pair => match pair.1 with
    | group :: _ :: _ => some group
    | _ => none

theorem keys_putEntry {α : Type} (key : String) (value : α) (entries : List (String × α)) :
    (putEntry key value entries).map (·.1) = if key ∈ entries.map (·.1) then entries.map (·.1)
      else entries.map (·.1) ++ [key] := by
  induction entries with
  | nil => rfl
  | cons entry entries ih =>
    rw [putEntry]
    by_cases here : entry.1 = key
    · simp [here]
    · rw [if_neg here, List.map_cons, ih]
      by_cases later : key ∈ entries.map (·.1) <;> simp [later, Ne.symm here]

/-- Groups stand in the order in which their keys appear first. -/
theorem keys_groupsOf (pairs : List (List String × String)) :
    (groupsOf pairs).map (·.1) = (groupKeys pairs).eraseDups := by
  induction pairs using List.reverseRecOn with
  | nil => rfl
  | append_singleton pairs last ih =>
    obtain ⟨parts, value⟩ := last
    rw [groupsOf, List.foldl_append, List.foldl_cons, List.foldl_nil, ← groupsOf, groupKeys,
      List.filterMap_append, ← groupKeys]
    rcases parts with _ | ⟨group, _ | ⟨first, rest⟩⟩
    · simpa [addToGroup] using ih
    · simpa [addToGroup] using ih
    · simp only [addToGroup, List.filterMap_cons, List.filterMap_nil]
      rw [keys_putEntry, ih, eraseDups_append_singleton]

/-! ## Sorting that keeps the order of equals -/

section
variable {α : Type} {le : α → α → Bool} {items : List α} {a b : α}

theorem pair_sublist_or_swap (ha : a ∈ items) (hb : b ∈ items) (ne : a ≠ b) :
    [a, b].Sublist items ∨ [b, a].Sublist items := by
  have symmetric : Std.Symm fun a b => [a, b].Sublist items ∨ [b, a].Sublist items :=
    ⟨fun _ _ => Or.symm⟩
  have each : items.Pairwise fun a b => [a, b].Sublist items ∨ [b, a].Sublist items :=
    List.pairwise_iff_forall_sublist.2 .inl
  exact each.forall ha hb ne

/-- Of two items in sorted order, the first belongs before the second, and stood before it already
if either might be the first. -/
theorem before_of_pair_sublist_mergeSort
    (trans : ∀ a b c, le a b = true → le b c = true → le a c = true)
    (total : ∀ a b, (le a b || le b a) = true) (distinct : items.Nodup)
    (h : [a, b].Sublist (items.mergeSort le)) :
    le a b = true ∧ (le b a = true → [a, b].Sublist items) := by
  have perm := List.mergeSort_perm items le
  have sorted := List.pairwise_mergeSort trans total items
  refine ⟨List.pairwise_iff_forall_sublist.1 sorted h, fun either => ?_⟩
  have distinct_sorted : (items.mergeSort le).Nodup := perm.nodup_iff.2 distinct
  have ne : a ≠ b := List.pairwise_iff_forall_sublist.1 distinct_sorted h
  have ha : a ∈ items := perm.mem_iff.1 (h.subset (by simp))
  have hb : b ∈ items := perm.mem_iff.1 (h.subset (by simp))
  rcases pair_sublist_or_swap ha hb ne with kept | swapped
  · exact kept
  · -- Sorting would have left `b` before `a`.
    have back := List.pair_sublist_mergeSort trans total either swapped
    have same := (distinct_sorted.perm_iff_eq_of_sublist h back).1 (.swap b a [])
    exact absurd (List.cons.inj same).1 ne

end

theorem groupBefore_trans (x y z : Option Nat) (hxy : groupBefore x y = true)
    (hyz : groupBefore y z = true) : groupBefore x z = true := by
  cases x <;> cases y <;> cases z <;> simp_all [groupBefore]
  omega

theorem groupBefore_total (x y : Option Nat) : (groupBefore x y || groupBefore y x) = true := by
  cases x <;> cases y <;> simp [groupBefore]
  omega

/-! ## The order of groups -/

/-- Whether the group of one key stands before that of another: numerals stand by number and before
all other keys, and what is left to decide is decided by the order in which the keys appear. -/
def Precedes (keys : List String) (a b : String) : Prop :=
  match numberOf? a, numberOf? b with
  | some m, some n => m < n ∨ m = n ∧ [a, b].Sublist keys
  | some _, none => True
  | none, some _ => False
  | none, none => [a, b].Sublist keys

theorem precedes_iff {keys : List String} {a b : String} :
    Precedes keys a b ↔ groupBefore (numberOf? a) (numberOf? b) = true ∧
      (groupBefore (numberOf? b) (numberOf? a) = true → [a, b].Sublist keys) := by
  rw [Precedes]
  cases numberOf? a with
  | none => cases numberOf? b <;> simp [groupBefore]
  | some m =>
    cases numberOf? b with
    | none => simp [groupBefore]
    | some n =>
      simp only [groupBefore, decide_eq_true_eq]
      constructor
      · rintro (less | ⟨rfl, seen⟩)
        · exact ⟨Nat.le_of_lt less, fun more => absurd more (Nat.not_le.2 less)⟩
        · exact ⟨Nat.le_refl m, fun _ => seen⟩
      · rintro ⟨le, seen⟩
        rcases Nat.lt_or_eq_of_le le with less | rfl
        · exact .inl less
        · exact .inr ⟨rfl, seen (Nat.le_refl m)⟩

section
variable {α : Type} {groups : List (String × α)}

/-- Groups whose keys can be read are put in order. -/
theorem orderGroups_of_readable (distinct : (groups.map (·.1)).Nodup)
    (h : ∀ key ∈ groups.map (·.1), IsReadableKey key) :
    ∃ named : List (String × α), orderGroups groups = .ok (named.map (·.2)) ∧
      named.Perm groups ∧ (named.map (·.1)).Pairwise (Precedes (groups.map (·.1))) := by
  let before : String × α → String × α → Bool :=
    fun a b => groupBefore (numberOf? a.1) (numberOf? b.1)
  have numbered : orderGroups groups = .ok (((groups.map fun group =>
      (numberOf? group.1, group.2)).mergeSort fun a b => groupBefore a.1 b.1).map (·.2)) := by
    rw [orderGroups, mapM_eq_map]
    · rfl
    · rintro ⟨key, group⟩ hm
      have read := groupNumber?_of_readable (h key (List.mem_map_of_mem hm))
      simp only [read, ok_bind, pure_eq]
  have sorted : (groups.map fun group => (numberOf? group.1, group.2)).mergeSort
      (fun a b => groupBefore a.1 b.1) =
        (groups.mergeSort before).map fun group => (numberOf? group.1, group.2) := by
    rw [List.map_mergeSort]
    exact fun _ _ _ _ => rfl
  refine ⟨groups.mergeSort before, ?_, List.mergeSort_perm groups before, ?_⟩
  · rw [numbered, sorted, List.map_map]
    rfl
  · rw [List.pairwise_map, List.pairwise_iff_forall_sublist]
    intro a b found
    have stable := before_of_pair_sublist_mergeSort
      (fun a b c => groupBefore_trans (numberOf? a.1) (numberOf? b.1) (numberOf? c.1))
      (fun a b => groupBefore_total (numberOf? a.1) (numberOf? b.1))
      (List.Nodup.of_map _ distinct) found
    exact precedes_iff.2 ⟨stable.1, fun either => (stable.2 either).map Prod.fst⟩

/-- One key that cannot be read is enough for the groups to be refused. -/
theorem orderGroups_of_not_readable {key : String} (hm : key ∈ groups.map (·.1))
    (h : ¬ IsReadableKey key) : ∃ failure, orderGroups groups = .error failure := by
  cases ordered : orderGroups groups with
  | error failure => exact ⟨failure, rfl⟩
  | ok result =>
    simp only [orderGroups, bind_eq_ok_iff] at ordered
    obtain ⟨numbered, hn, -⟩ := ordered
    obtain ⟨group, hg, rfl⟩ := List.mem_map.1 hm
    obtain ⟨failure, failed⟩ := groupNumber?_of_not_readable h
    obtain ⟨first, read⟩ := (mapM_eq_ok_iff (none, group.2)).1 hn |>.1 group hg
    rw [failed] at read
    cases read

end

/-- A query string whose keys of groups can be read has one group for each of them, in order; with
any other key of a group it is not read at all. -/
theorem readBrackets_in_order (items : List (String × String)) :
    ∃ pairs, PairsOf groupsName items pairs ∧
      ((∀ key ∈ groupKeys pairs, IsReadableKey key) →
        ∃ params named, readBrackets items = .ok params ∧ WriteGroups pairs named ∧
          (named.map (·.1)).Pairwise (Precedes (groupKeys pairs).eraseDups) ∧
          params.groups = named.map (·.2)) ∧
      ∀ key ∈ groupKeys pairs, ¬ IsReadableKey key →
        ∃ failure, readBrackets items = .error failure := by
  have groups_name : IsBracketName groupsName := ⟨rfl, rfl⟩
  have group_pairs : PairsOf groupsName items _ := (pairsOf_iff groups_name).2 rfl
  refine ⟨_, group_pairs, fun readable => ?_, fun key hk unreadable => ?_⟩
  · have each : ∀ key ∈ (groupsOf (items.filterMap (pairUnder? groupsName))).map (·.1),
        IsReadableKey key := by
      intro key hm
      rw [keys_groupsOf, List.mem_eraseDups] at hm
      exact readable key hm
    obtain ⟨named, ordered, perm, in_order⟩ := orderGroups_of_readable (nodup_groupsOf _) each
    refine ⟨⟨bracketFilters items, named.map (·.2)⟩, named, ?_, ?_, ?_, rfl⟩
    · rw [readBrackets, bracketGroups_eq, ordered]
      rfl
    · exact (writeGroups_groupsOf group_pairs.filled).perm perm
    · rwa [keys_groupsOf] at in_order
  · have named : key ∈ (groupsOf (items.filterMap (pairUnder? groupsName))).map (·.1) := by
      rw [keys_groupsOf, List.mem_eraseDups]
      exact hk
    obtain ⟨failure, failed⟩ := orderGroups_of_not_readable named unreadable
    exact ⟨failure, by rw [readBrackets, bracketGroups_eq, failed]; rfl⟩

/-- A superscript looks like a digit and cannot be read as a number. -/
theorem superscript_group_fails :
    readBrackets [("orFilters[²][status]", "open")] =
      crashWith ⟨.badValue, "invalid literal for int() with base 10: " ++ quoted "²"⟩ := by
  have sign : isDigitSign '²' = true := by simp [isDigitSign, RangeTable.has, digitSigns]
  have number : groupNumber? "²" =
      crashWith ⟨.badValue, "invalid literal for int() with base 10: " ++ quoted "²"⟩ := by
    have unread : "²".toList.mapM digitValue? = none := by decide
    have looks : ("²".toList.isEmpty || !"²".toList.all isDigitSign) = false := by simp [sign]
    rw [groupNumber?, unread, looks]
    rfl
  have groups : bracketGroups [("orFilters[²][status]", "open")] =
      [("²", [("status", .text "open")])] := rfl
  simp only [readBrackets, groups, orderGroups, List.mapM_cons, number, crashWith, error_bind]

end RecordListing
