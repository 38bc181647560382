import Mathlib.Data.List.Nodup
import RecordListing.Query.Sql
import RecordListing.Proofs.Outcome
import RecordListing.Proofs.Text.Pieces

/-!
# Parameters have names of their own

A counter of its own gives every parameter of a namespace its number, which can be read off the name
whatever field the name was made of (`Numbered.unique`). So each stage of compiling that counts its
parameters names them apart (`compileFilters_names`, `compileGroups_names`, `compileSearch_names`),
and the stages keep apart by the fronts of their names.
-/

set_option autoImplicit false

namespace RecordListing

open Text Outcome

/-! ## Characters of names -/

/-- The characters that a name may consist of: letters and digits of ASCII, and the underscore. -/
def isBindChar (c : Char) : Bool := c.isAlphanum || c == '_'

def isBindText (s : String) : Bool := s.toList.all isBindChar

@[simp] theorem isBindText_append (s t : String) :
    isBindText (s ++ t) = (isBindText s && isBindText t) := by
  simp [isBindText]

theorem isBindChar_nameChar (c : Char) : isBindChar (nameChar c) = true := by
  unfold nameChar
  split
  · rename_i h
    have alphanum : c.isAlphanum = true := by
      show ((c.isUpper || c.isLower) || c.isDigit) = true
      simp only [Bool.or_eq_true]
      rcases h with upper | lower | digit
      · exact .inl (.inl (decide_eq_true upper))
      · exact .inl (.inr (Bool.and_eq_true_iff.2 (lower.imp decide_eq_true decide_eq_true)))
      · exact .inr digit
    simp [isBindChar, alphanum]
  · decide

@[simp] theorem isBindText_map_nameChar (cs : List Char) :
    isBindText (String.ofList (cs.map nameChar)) = true := by
  simp [isBindText, isBindChar_nameChar]

theorem isDigit_of_mem_repr {n : Nat} {c : Char} (h : c ∈ (Nat.repr n).toList) :
    c.isDigit = true := by
  rw [Nat.toList_repr] at h
  exact Nat.isDigit_of_mem_toDigits (by decide) (by decide) h

@[simp] theorem isBindText_repr (n : Nat) : isBindText (Nat.repr n) = true :=
  List.all_eq_true.2 fun c hc => by
    simp [isBindChar, Char.isAlphanum, isDigit_of_mem_repr hc]

/-- A name that is made of a field path has no other characters than these, but for those of the
namespace and of the suffix. -/
theorem isBindText_bindName (space : String) (number : Nat) (path suffix : String) :
    isBindText (bindName space number path suffix) = (isBindText space && isBindText suffix) := by
  have fixed : isBindText "p" = true ∧ isBindText "_" = true := by decide
  simp [bindName, fixed]

/-! ## Numbers in names -/

theorem repr_injective : Function.Injective Nat.repr := by
  intro m n h
  have read := congrArg (fun s => Nat.ofDigitChars 10 s.toList 0) h
  simpa using read

theorem underscore_not_mem_repr (n : Nat) : '_' ∉ (Nat.repr n).toList := fun h =>
  absurd (isDigit_of_mem_repr h) (by decide)

/-- Whether a name consists of a front, a number, an underscore and characters of names. -/
def Numbered (front : String) (number : Nat) (name : String) : Prop :=
  ∃ rest, isBindText rest = true ∧ name = front ++ Nat.repr number ++ "_" ++ rest

theorem Numbered.unique {front name : String} {m n : Nat} (hm : Numbered front m name)
    (hn : Numbered front n name) : m = n := by
  obtain ⟨s, -, rfl⟩ := hm
  obtain ⟨t, -, h⟩ := hn
  have chars := congrArg String.toList h
  simp only [String.toList_append, List.append_assoc, List.append_cancel_left_eq] at chars
  have cut := congrArg (cutAt '_') chars
  rw [show "_".toList = ['_'] from rfl, List.singleton_append, List.singleton_append,
    cutAt_append (underscore_not_mem_repr m), cutAt_append (underscore_not_mem_repr n)] at cut
  exact repr_injective (String.toList_inj.1 (List.cons.inj cut).1)

theorem numbered_bindName (space : String) (number : Nat) (path : String) {suffix : String}
    (h : isBindText suffix = true) :
    Numbered (space ++ "p") number (bindName space number path suffix) :=
  ⟨String.ofList (path.toList.map nameChar) ++ suffix, by simp [h],
    by simp [bindName, String.append_assoc]⟩

theorem Numbered.append {front name more : String} {number : Nat} (h : Numbered front number name)
    (hm : isBindText more = true) : Numbered front number (name ++ more) := by
  obtain ⟨rest, hr, rfl⟩ := h
  exact ⟨rest ++ more, by simp [hr, hm], by simp [String.append_assoc]⟩

theorem Numbered.isBindText {front name : String} {number : Nat} (h : Numbered front number name)
    (hf : isBindText front = true) : isBindText name = true := by
  obtain ⟨rest, hr, rfl⟩ := h
  simp [hf, hr, show RecordListing.isBindText "_" = true by decide]

theorem nodup_itemNames (name : String) (count : Nat) : (Sql.itemNames name count).Nodup := by
  refine List.nodup_range.map fun i j h => ?_
  have numbers : Nat.repr (i + 1) = Nat.repr (j + 1) := by
    simpa [String.append_assoc] using h
  exact Nat.succ.inj (repr_injective numbers)

/-! ## Numbered names -/

/-- Whether names are distinct, each with a number from `first` on that is less than `next`. -/
structure NumberedFrom (front : String) (first next : Nat) (names : List String) : Prop where
  le : first ≤ next
  nodup : names.Nodup
  numbered : ∀ name ∈ names, ∃ number, first ≤ number ∧ number < next ∧ Numbered front number name

namespace NumberedFrom

variable {front : String} {first middle next : Nat} {names others : List String}

theorem nil (front : String) (number : Nat) : NumberedFrom front number number [] :=
  ⟨Nat.le_refl _, List.nodup_nil, fun _ h => nomatch h⟩

/-- Names that share a number, but are distinct. -/
theorem one (nodup : names.Nodup) (numbered : ∀ name ∈ names, Numbered front first name) :
    NumberedFrom front first (first + 1) names :=
  ⟨Nat.le_succ _, nodup, fun name h => ⟨first, Nat.le_refl _, Nat.lt_succ_self _, numbered name h⟩⟩

theorem append (h : NumberedFrom front first middle names)
    (h' : NumberedFrom front middle next others) :
    NumberedFrom front first next (names ++ others) := by
  refine ⟨Nat.le_trans h.le h'.le, List.nodup_append.2 ⟨h.nodup, h'.nodup, ?_⟩, fun name hn => ?_⟩
  · rintro name hn other ho rfl
    obtain ⟨m, -, before, hm⟩ := h.numbered name hn
    obtain ⟨n, after, -, hn⟩ := h'.numbered name ho
    exact absurd (hm.unique hn) (by omega)
  · rcases List.mem_append.1 hn with hn | hn
    · obtain ⟨number, lower, upper, hm⟩ := h.numbered name hn
      exact ⟨number, lower, Nat.lt_of_lt_of_le upper h'.le, hm⟩
    · obtain ⟨number, lower, upper, hm⟩ := h'.numbered name hn
      exact ⟨number, Nat.le_trans h.le lower, upper, hm⟩

end NumberedFrom

section
variable (space : String) (number : Nat) (path : String)

theorem numberedFrom_bindName {suffix : String} (h : isBindText suffix = true) :
    NumberedFrom (space ++ "p") number (number + 1) [bindName space number path suffix] :=
  .one (List.nodup_singleton _) fun _ hn =>
    List.mem_singleton.1 hn ▸ numbered_bindName space number path h

/-- The names of the two ends of a range. -/
theorem numberedFrom_ends {low high : String} (hl : isBindText low = true)
    (hh : isBindText high = true) :
    NumberedFrom (space ++ "p") number (number + 2)
      [bindName space number path low, bindName space (number + 1) path high] :=
  (numberedFrom_bindName space number path hl).append
    (numberedFrom_bindName space (number + 1) path hh)

/-- The names of the items of a list. -/
theorem numberedFrom_items (count : Nat) :
    NumberedFrom (space ++ "p") number (number + 1)
      (Sql.itemNames (bindName space number path "") count) := by
  refine .one (nodup_itemNames _ _) fun name h => ?_
  obtain ⟨i, -, rfl⟩ := List.mem_map.1 h
  rw [String.append_assoc]
  exact (numbered_bindName space number path rfl).append (by simp; decide)

end

/-! ## Names of conditions -/

/-- The names of the parameters of conditions, in order. -/
def conditionNames (conditions : List Condition) : List String :=
  (conditions.flatMap Sql.conditionParams).map (·.1)

theorem conditionNames_append (conditions others : List Condition) :
    conditionNames (conditions ++ others) = conditionNames conditions ++ conditionNames others := by
  simp [conditionNames]

theorem conditionNames_cons (condition : Condition) (conditions : List Condition) :
    conditionNames (condition :: conditions) =
      conditionNames [condition] ++ conditionNames conditions :=
  conditionNames_append [condition] conditions

theorem conditionNames_allOf (first : Condition) (rest : List Condition) :
    conditionNames [.allOf first rest] = conditionNames (first :: rest) := by
  induction rest generalizing first with
  | nil => rfl
  | cons next rest ih =>
    have step : conditionNames [.allOf first (next :: rest)] =
        conditionNames [first] ++ conditionNames [.allOf next rest] := by
      simp [conditionNames, Condition.allOf, Sql.conditionParams]
    rw [step, ih, ← conditionNames_cons]

theorem conditionNames_anyOf (first : Condition) (rest : List Condition) :
    conditionNames [.anyOf first rest] = conditionNames (first :: rest) := by
  induction rest generalizing first with
  | nil => rfl
  | cons next rest ih =>
    have step : conditionNames [.anyOf first (next :: rest)] =
        conditionNames [first] ++ conditionNames [.anyOf next rest] := by
      simp [conditionNames, Condition.anyOf, Sql.conditionParams]
    rw [step, ih, ← conditionNames_cons]

theorem conditionNames_oneOf (column : ColumnRef) (among : Bool) (name : String)
    (values : List Value) :
    conditionNames [.test (.oneOf column among name values)] =
      Sql.itemNames name values.length := by
  have length : (Sql.itemNames name values.length).length = values.length := by
    simp [Sql.itemNames]
  simp [conditionNames, Sql.conditionParams, Sql.testParams, List.map_fst_zip (Nat.le_of_eq length)]

/-! ## Filters -/

section
variable (space : String) (number : Nat)

/-- Whether what is compiled from a number on, if anything, names its parameters by the numbers from
there to the one that comes next. -/
abbrev NamesFrom (x : Outcome (List Condition × Nat)) : Prop :=
  Yields (fun result => NumberedFrom (space ++ "p") number result.2 (conditionNames result.1)) x

theorem compileRange_names (plan : JoinPlan) (path : String) (low high : Value) :
    NamesFrom space number ((compileRange plan space number path low high).map
      fun result => ([result.1], result.2)) := by
  have ends : NumberedFrom (space ++ "p") number (number + 2)
      [bindName space number path "_from", bindName space (number + 1) path "_to"] :=
    numberedFrom_ends space number path (by decide) (by decide)
  have bounded (field : Field) (column : ColumnRef) : Yields
      (fun result => NumberedFrom (space ++ "p") number result.2 (conditionNames [result.1]))
      (compileRange.bounded number path low high field column (bindName space number path "_from")
        (bindName space (number + 1) path "_to")) := by
    unfold compileRange.bounded
    split
    · exact ends
    · trivial
    · trivial
  refine Ends.map ?_
  unfold compileRange
  split
  · trivial
  · dsimp only
    split
    · split
      · exact .after fun first _ => .after fun last _ => ends
      · exact bounded _ _
    · exact bounded _ _

section
variable (term : FilterTerm) (field : Field) (column : ColumnRef)

theorem single_names (negated : Bool) (value : Value) :
    NamesFrom space number
      ((compileEquality.single space number term field column negated value).map
        fun result => (result.1.toList, result.2)) := by
  refine Ends.map ?_
  unfold compileEquality.single
  split
  · trivial
  · exact numberedFrom_bindName space number term.field rfl

theorem wholeDay_names (negated zoned : Bool) (s : String) :
    NamesFrom space number
      ((compileEquality.wholeDay space number term field column negated zoned s).map
        fun result => (result.1.toList, result.2)) := by
  have ends : NumberedFrom (space ++ "p") number (number + 2)
      [bindName space number term.field "_start", bindName space (number + 1) term.field "_end"] :=
    numberedFrom_ends space number term.field (by decide) (by decide)
  refine Ends.map (Ends.after fun bounds _ => ?_)
  dsimp only
  split
  · exact ends
  · exact ends

theorem compileEquality_names :
    NamesFrom space number ((compileEquality space number term field column).map
      fun result => (result.1.toList, result.2)) := by
  unfold compileEquality
  dsimp only
  split
  · exact .nil _ number
  · split
    · exact .nil _ number
    · split
      · trivial
      · simp only [map_ok, Option.toList_some]
        show NumberedFrom _ _ _ _
        rw [conditionNames_oneOf]
        exact numberedFrom_items space number term.field _
    · split
      · exact wholeDay_names space number term field column _ _ _
      · exact single_names space number term field column _ _
    · exact single_names space number term field column _ _

end

theorem compileTerm_names (plan : JoinPlan) (term : FilterTerm) :
    NamesFrom space number ((compileTerm plan space number term).map
      fun result => (result.1.toList, result.2)) := by
  have one : NumberedFrom (space ++ "p") number (number + 1)
      [bindName space number term.field ""] := numberedFrom_bindName space number term.field rfl
  unfold compileTerm
  split
  · trivial
  · split
    · exact .nil _ number
    · split
      · exact .nil _ number
      · split
        · exact one
        · exact one
        · exact compileEquality_names space number term _ _
        · exact compileEquality_names space number term _ _
        · split
          · trivial
          · exact one

theorem compileTerms_names (plan : JoinPlan) (terms : List FilterTerm) :
    NamesFrom space number (compileTerms plan space number terms) := by
  induction terms generalizing number with
  | nil => exact .nil _ number
  | cons term terms ih =>
    refine .after fun first hf => Ends.bind (ih first.2) fun rest _ hr => ?_
    have names := (compileTerm_names space number plan term).ok (map_eq_ok_iff.2 ⟨first, hf, rfl⟩)
    show NumberedFrom _ _ _ _
    rw [conditionNames_append]
    exact names.append hr

theorem compileField_names (plan : JoinPlan) (path : String) (terms : List FilterTerm) :
    NamesFrom space number (compileField plan space number path terms) := by
  unfold compileField
  split
  · exact compileTerms_names space number plan terms
  · refine .after fun range hrange => (compileTerms_names space range.2 plan _).bind
      fun rest _ hr => ?_
    have names := (compileRange_names space number plan path _ _).ok
      (map_eq_ok_iff.2 ⟨range, hrange, rfl⟩)
    show NumberedFrom _ _ _ _
    rw [conditionNames_cons]
    exact names.append hr

theorem compileFields_names (plan : JoinPlan) (fields : List (String × List FilterTerm)) :
    NamesFrom space number (compileFields plan space number fields) := by
  induction fields generalizing number with
  | nil => exact .nil _ number
  | cons field fields ih =>
    refine (compileField_names space number plan field.1 field.2).bind fun first _ hf =>
      (ih first.2).bind fun rest _ hr => ?_
    show NumberedFrom _ _ _ _
    rw [conditionNames_append]
    exact hf.append hr

/-- The parameters of filters have names of their own. -/
theorem compileFilters_names (plan : JoinPlan) (terms : List FilterTerm) :
    Yields (fun conditions => ∃ next,
        NumberedFrom (space ++ "p") 0 next (conditionNames conditions))
      (compileFilters plan space terms) :=
  Ends.map ((compileFields_names space 0 plan _).imp fun result h => ⟨result.2, h⟩)

end

/-! ## Groups -/

theorem numbered_groupSpace (index : Nat) {rest : String} (h : isBindText rest = true) :
    Numbered "or" index (groupSpace index ++ rest) :=
  ⟨rest, h, by simp [groupSpace]⟩

/-- The parameters of groups have names of their own, each in the namespace of its group. -/
theorem compileGroups_names (plan : JoinPlan) (groups : List (List FilterTerm)) (index : Nat) :
    Yields (fun conditions => NumberedFrom "or" index (index + groups.length)
        (conditionNames conditions))
      (compileGroups plan index groups) := by
  induction groups generalizing index with
  | nil => exact .nil _ index
  | cons terms groups ih =>
    refine (compileFilters_names _ plan terms).bind fun first _ hf =>
      (ih (index + 1)).bind fun rest _ hr => ?_
    obtain ⟨next, hf⟩ := hf
    have own : NumberedFrom "or" index (index + 1) (conditionNames first) := by
      refine .one hf.nodup fun name hn => ?_
      obtain ⟨number, -, -, rest, hr, rfl⟩ := hf.numbered name hn
      simp only [String.append_assoc]
      exact numbered_groupSpace index (by simp [hr]; decide)
    have all := own.append hr
    rw [Nat.add_assoc, Nat.add_comm 1, ← List.length_cons (a := terms)] at all
    split
    · exact all
    · show NumberedFrom _ _ _ _
      rw [conditionNames_cons, conditionNames_allOf]
      exact all

theorem compileOrFilters_names (plan : JoinPlan) (groups : List (List FilterTerm)) :
    Yields (fun bracket => NumberedFrom "or" 0 groups.length (conditionNames bracket.toList))
      (compileOrFilters plan groups) := by
  refine (compileGroups_names plan groups 0).bind fun conditions _ names => ?_
  rw [Nat.zero_add] at names
  split
  · exact names
  · show NumberedFrom _ _ _ _
    rw [Option.toList_some, conditionNames_anyOf]
    exact names

/-! ## Search -/

theorem searchField_names (term path : String) (number : Nat) (column : ColumnRef) :
    Yields (fun condition => ∀ c ∈ condition,
        conditionNames [c] = [bindName searchSpace number path ""])
      (searchField term path number column) := by
  unfold searchField
  dsimp only
  split
  · refine .after fun value _ => ?_
    intro c hc
    obtain ⟨_, _, rfl⟩ := Option.map_eq_some_iff.1 hc
    rfl
  · intro c hc
    cases hc
    rfl

/-- The parameters of a search have names of their own. -/
theorem searchFields_names (plan : JoinPlan) (term : String) (paths : List String) (number : Nat) :
    Yields (fun conditions => ∃ next,
        NumberedFrom (searchSpace ++ "p") number next (conditionNames conditions))
      (searchFields plan term number paths) := by
  induction paths generalizing number with
  | nil => exact ⟨number, .nil _ number⟩
  | cons path paths ih =>
    unfold searchFields
    split
    · exact ih number
    · split
      · exact ih number
      · refine (searchField_names term path number _).bind fun condition _ hc => ?_
        split
        · exact ih number
        · refine (ih (number + 1)).bind fun others _ ho => ?_
          obtain ⟨next, ho⟩ := ho
          refine ⟨next, ?_⟩
          rw [conditionNames_cons, hc _ rfl]
          exact (numberedFrom_bindName searchSpace number path rfl).append ho

theorem compileSearch_names (plan : JoinPlan) (search fields : Value) :
    Yields (fun bracket => ∃ next,
        NumberedFrom (searchSpace ++ "p") 0 next (conditionNames bracket.toList))
      (compileSearch plan search fields) := by
  have no_names : ∃ next, NumberedFrom (searchSpace ++ "p") 0 next [] := ⟨0, .nil _ 0⟩
  unfold compileSearch
  split
  · exact no_names
  · split
    · trivial
    · exact no_names
    · refine .after fun paths _ => ?_
      unfold searchCondition
      split
      · exact no_names
      · refine (searchFields_names plan _ _ 0).bind fun conditions _ names => ?_
        split
        · exact no_names
        · obtain ⟨next, names⟩ := names
          refine ⟨next, ?_⟩
          rw [Option.toList_some, conditionNames_anyOf]
          exact names

end RecordListing
