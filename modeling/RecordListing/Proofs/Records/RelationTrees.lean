import Mathlib.Data.List.MinMax
import RecordListing.Records.Tree
import RecordListing.Proofs.Query.JoinOrder
import RecordListing.Proofs.Records.Keys

/-!
# What a relation tree holds

The tree of some runs of relations has a branch for each segment that they begin with (`firsts`):
the tree of what is left of the runs that begin with it (`ofRuns_eq`). So it holds the beginnings of
the runs and nothing else (`holds_ofRuns_iff`).
-/

set_option autoImplicit false

namespace RecordListing

/-! ## Runs taken apart -/

/-- The segments that runs of relations begin with, each once. -/
def firsts (runs : List (List String)) : List String := (runs.filterMap List.head?).eraseDups

/-- What is left of the runs that begin with a segment. -/
def remainders (name : String) (runs : List (List String)) : List (List String) :=
  (runs.filter (·.head? = some name)).map List.tail

/-- Whether a run is a beginning of one of several. -/
def IsBeginning (runs : List (List String)) (run : List String) : Prop :=
  ∃ path ∈ runs, run <+: path

section
variable {runs : List (List String)} {name : String}

theorem mem_firsts_iff : name ∈ firsts runs ↔ ∃ rest, name :: rest ∈ runs := by
  simp only [firsts, List.mem_eraseDups, List.mem_filterMap]
  constructor
  · rintro ⟨run, hr, first⟩
    obtain ⟨rest, rfl⟩ := List.head?_eq_some_iff.1 first
    exact ⟨rest, hr⟩
  · rintro ⟨rest, hr⟩
    exact ⟨_, hr, rfl⟩

theorem mem_remainders_iff {rest : List String} :
    rest ∈ remainders name runs ↔ name :: rest ∈ runs := by
  simp only [remainders, List.mem_map, List.mem_filter, decide_eq_true_eq]
  constructor
  · rintro ⟨run, ⟨hr, first⟩, rfl⟩
    obtain ⟨rest, rfl⟩ := List.head?_eq_some_iff.1 first
    exact hr
  · intro hr
    exact ⟨_, ⟨hr, rfl⟩, rfl⟩

theorem isBeginning_cons_iff {run : List String} :
    IsBeginning runs (name :: run) ↔ IsBeginning (remainders name runs) run := by
  constructor
  · rintro ⟨path, hp, rest, rfl⟩
    exact ⟨_, mem_remainders_iff.2 hp, List.prefix_append _ _⟩
  · rintro ⟨path, hp, begins⟩
    exact ⟨_, mem_remainders_iff.1 hp, List.cons_prefix_cons.2 ⟨rfl, begins⟩⟩

theorem isBeginning_singleton_iff : IsBeginning runs [name] ↔ name ∈ firsts runs := by
  rw [isBeginning_cons_iff, mem_firsts_iff]
  exact ⟨fun ⟨path, hp, _⟩ => ⟨path, mem_remainders_iff.1 hp⟩,
    fun ⟨rest, hr⟩ => ⟨rest, mem_remainders_iff.2 hr, List.nil_prefix⟩⟩

theorem remainders_eq_nil_iff : remainders name runs = [] ↔ name ∉ firsts runs := by
  simp only [List.eq_nil_iff_forall_not_mem, mem_remainders_iff, mem_firsts_iff, not_exists]

theorem nodup_firsts (runs : List (List String)) : (firsts runs).Nodup := nodup_eraseDups _

theorem firsts_concat_cons (rest : List String) :
    firsts (runs ++ [name :: rest]) =
      if name ∈ firsts runs then firsts runs else firsts runs ++ [name] := by
  have heads : firsts (runs ++ [name :: rest]) =
      (runs.filterMap List.head? ++ [name]).eraseDups := by
    simp [firsts, List.filterMap_append]
  rw [heads, eraseDups_append_singleton, firsts]

theorem remainders_concat_cons (other : String) (rest : List String) :
    remainders other (runs ++ [name :: rest]) =
      if other = name then remainders name runs ++ [rest] else remainders other runs := by
  split
  · rename_i same
    simp [remainders, same]
  · rename_i apart
    simp [remainders, Ne.symm apart]

end

/-- What holds of runs as soon as it holds of what is left of them behind each first segment holds
of all runs. -/
theorem runs_induction {P : List (List String) → Prop}
    (step : ∀ runs, (∀ name ∈ firsts runs, P (remainders name runs)) → P runs)
    (runs : List (List String)) : P runs := by
  have bounded : ∀ n runs, (∀ run ∈ runs, run.length ≤ n) → P runs := by
    intro n
    induction n with
    | zero =>
      intro runs short
      refine step runs fun name hn => ?_
      obtain ⟨rest, hr⟩ := mem_firsts_iff.1 hn
      exact absurd (short _ hr) (by simp)
    | succ n ih =>
      intro runs short
      refine step runs fun name _ => ih _ fun rest hr => ?_
      simpa using short _ (mem_remainders_iff.1 hr)
  exact bounded ((runs.map List.length).foldr max 0) runs fun run hr =>
    List.le_max_of_le' 0 (List.mem_map_of_mem hr) le_rfl

/-! ## Entries by name -/

section
variable {α : Type} (f : String → α) {names : List String} {key : String}

theorem lookup_map_pair : (names.map fun name => (name, f name)).lookup key =
    if key ∈ names then some (f key) else none := by
  induction names with
  | nil => rfl
  | cons name names ih =>
    rw [List.map_cons, lookup_cons_eq_ite, ih]
    by_cases here : key = name
    · simp [here]
    · simp [here]

theorem putEntry_map_pair (distinct : names.Nodup) (value : α) :
    putEntry key value (names.map fun name => (name, f name)) =
      (if key ∈ names then names else names ++ [key]).map fun name =>
        (name, if name = key then value else f name) := by
  induction names with
  | nil => simp [putEntry]
  | cons name names ih =>
    obtain ⟨fresh, rest⟩ := List.nodup_cons.1 distinct
    rw [List.map_cons, putEntry]
    by_cases here : name = key
    · subst here
      have others : ∀ other ∈ names, (other, if other = name then value else f other) =
          (other, f other) := fun other ho => by
        rw [if_neg (ne_of_mem_of_not_mem ho fresh)]
      rw [if_pos rfl, if_pos List.mem_cons_self, List.map_cons, if_pos rfl,
        List.map_congr_left others]
    · rw [if_neg here, ih rest]
      by_cases known : key ∈ names <;> simp [here, Ne.symm here, known]

end

/-! ## Trees of runs -/

namespace RelationTree

/-- The tree of runs of relations. -/
def ofRuns (runs : List (List String)) : RelationTree :=
  runs.foldl (fun tree run => tree.insert run) empty

theorem ofPaths_eq (paths : List String) : ofPaths paths = ofRuns (paths.map pathSegments) := by
  rw [ofPaths, ofRuns, List.foldl_map]

theorem ofRuns_concat (runs : List (List String)) (run : List String) :
    ofRuns (runs ++ [run]) = (ofRuns runs).insert run := by
  rw [ofRuns, List.foldl_concat, ofRuns]

/-- A tree has a branch for each first segment, the tree of what is left behind it. -/
theorem ofRuns_eq (runs : List (List String)) :
    ofRuns runs = .node ((firsts runs).map fun name => (name, ofRuns (remainders name runs))) := by
  induction runs using List.reverseRecOn with
  | nil => rfl
  | append_singleton runs run ih =>
    rw [ofRuns_concat]
    cases run with
    | nil =>
      have same_firsts : firsts (runs ++ [[]]) = firsts runs := by
        rw [firsts, List.filterMap_append, List.filterMap_cons_none rfl, List.filterMap_nil,
          List.append_nil, firsts]
      have same_remainders : ∀ name, remainders name (runs ++ [[]]) = remainders name runs := by
        simp [remainders]
      simp only [insert, same_firsts, same_remainders]
      exact ih
    | cons first rest =>
      -- a branch that is not there yet grows from the tree of no runs
      have branch : ((ofRuns runs).children.lookup first).getD empty =
          ofRuns (remainders first runs) := by
        rw [ih, children, lookup_map_pair]
        split
        · rfl
        · rename_i fresh
          rw [remainders_eq_nil_iff.2 fresh]
          rfl
      have grown : (ofRuns (remainders first runs)).insert rest =
          ofRuns (remainders first runs ++ [rest]) := (ofRuns_concat _ _).symm
      rw [insert, branch, grown, ih, children, putEntry_map_pair _ (nodup_firsts runs),
        firsts_concat_cons]
      refine congrArg node (List.map_congr_left fun name _ => ?_)
      rw [remainders_concat_cons]
      split <;> rfl

/-- Empty runs add nothing. -/
theorem ofRuns_filter (runs : List (List String)) :
    ofRuns (runs.filter fun run => !run.isEmpty) = ofRuns runs := by
  induction runs using List.reverseRecOn with
  | nil => rfl
  | append_singleton runs run ih =>
    rw [List.filter_append, ofRuns_concat, ← ih]
    cases run with
    | nil => simp [insert]
    | cons first rest => simp [ofRuns_concat]

/-- Whether a tree holds a run of relations. -/
def Holds : List String → RelationTree → Prop
  | [], _ => True
  | name :: run, tree => ∃ branch, (name, branch) ∈ tree.children ∧ Holds run branch

/-- A tree of runs holds their beginnings and nothing else. -/
theorem holds_ofRuns_iff {runs : List (List String)} {run : List String} (hne : run ≠ []) :
    (ofRuns runs).Holds run ↔ IsBeginning runs run := by
  induction run generalizing runs with
  | nil => exact absurd rfl hne
  | cons name run ih =>
    have branches : (ofRuns runs).Holds (name :: run) ↔
        name ∈ firsts runs ∧ (ofRuns (remainders name runs)).Holds run := by
      rw [Holds, ofRuns_eq]
      simp [children]
    rw [branches]
    cases run with
    | nil => rw [isBeginning_singleton_iff, Holds, and_true]
    | cons next rest =>
      rw [isBeginning_cons_iff, ih (List.cons_ne_nil _ _), and_iff_right_iff_imp]
      rintro ⟨path, hp, -⟩
      exact mem_firsts_iff.2 ⟨path, mem_remainders_iff.1 hp⟩

end RelationTree

end RecordListing
