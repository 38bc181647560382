import Mathlib.Data.List.Forall2
import RecordListing.Proofs.Query.CanonicalTexts
import RecordListing.Proofs.Query.ParameterNames
import RecordListing.Proofs.Query.RefusedTexts
import RecordListing.Proofs.Query.SearchMeaning

/-!
# What a search compares with

A search compares a column of choices or numbers with the value that a filter would compare it
with, and never fails, exactly where both read the term alike (`searchesAlike_iff`). They do not
read alike a literal whose power of ten is beyond what decimals hold, on which the search fails, and
a text that is the name or the value, but not both, of members stored by name.
-/

set_option autoImplicit false

namespace RecordListing

open Outcome Text

/-! ## Columns -/

namespace ColumnType

/-- Whether a search compares columns of this type with a value. It looks into the text of all
others. -/
def isCompared (type : ColumnType) : Bool := type.kind = .choice ∨ type.kind.isNumber

/-- The type as a search takes it: numbers are kept exact. -/
def exactly : ColumnType → ColumnType
  | .numeric places _ => .numeric places true
  | type => type

/-- Whether a filter on a column of this type accepts the term, or any text will do. -/
def accepts (type : ColumnType) (term : String) : Bool :=
  !type.isCompared || (type.coerce? (.text term)).isSome

/-- Whether a search reads a term as a filter does: a literal has a power of ten that decimals hold,
and of members stored by name the term is both a name and a value, or neither. -/
def ReadsAlike (type : ColumnType) (term : String) : Prop :=
  match type with
  | .choice (.members all true) => (∃ m ∈ all, m.name = term) ↔ ∃ m ∈ all, m.value = term
  | .integer | .numeric _ _ =>
    ∀ d, Decimal.ofLiteral? (trimmed term.toList) = some d → d.inRange = true
  | _ => True

end ColumnType

section
variable {type : ColumnType} {term : String}

theorem readNumber_eq_beyondRange_iff {s : String} {whole : Bool} :
    readNumber s whole = .error .beyondRange ↔
      ∃ d, Decimal.ofLiteral? (trimmed s.toList) = some d ∧ d.inRange = false := by
  unfold readNumber
  cases Decimal.ofLiteral? (trimmed s.toList) with
  | none => simp
  | some d =>
    cases h : d.inRange with
    | false => simp [h]
    | true => cases whole <;> cases hw : d.isWhole <;> simp [h, hw]

theorem readsAlike_number_iff {s : String} (whole : Bool) :
    (∀ d, Decimal.ofLiteral? (trimmed s.toList) = some d → d.inRange = true) ↔
      readNumber s whole ≠ .error .beyondRange := by
  rw [Ne, readNumber_eq_beyondRange_iff]
  simp only [not_exists, not_and, Bool.not_eq_false]

theorem accept?_isSome_iff {all : List Member} {byName : Bool} :
    ((Choices.members all byName).accept? (.text term)).isSome = true ↔
      ∃ m ∈ all, m.value = term := by
  simp [Choices.accept?, Value.choiceText?, memberOf?, List.find?_isSome]

/-- Both read a choice alike where it is one of the stored texts exactly if it is accepted. -/
theorem readsAlike_choice_iff {choices : Choices} :
    (ColumnType.choice choices).ReadsAlike term ↔
      choices.texts.contains term = (choices.accept? (.text term)).isSome := by
  cases choices with
  | labels texts =>
    refine iff_of_true trivial ?_
    simp only [Choices.texts, Choices.accept?, Value.choiceText?]
    cases texts.contains term <;> rfl
  | members all byName =>
    rw [Bool.eq_iff_iff, accept?_isSome_iff]
    cases byName with
    | false =>
      refine iff_of_true trivial ?_
      simp [Choices.texts, Choices.storedText]
    | true => simp [ColumnType.ReadsAlike, Choices.texts, Choices.storedText]

/-! ## Values -/

theorem searchValue_choice_iff {choices : Choices} :
    searchValue (.choice choices) term = .ok (choices.accept? (.text term)) ↔
      (ColumnType.choice choices).ReadsAlike term := by
  rw [readsAlike_choice_iff]
  cases listed : choices.texts.contains term with
  | false =>
    have passed : searchValue (.choice choices) term = .ok none := by
      simp only [searchValue, listed, Bool.false_eq_true, if_false]
    rw [passed]
    cases choices.accept? (.text term) <;> simp
  | true =>
    simp only [searchValue, listed, if_true]
    cases accepted : choices.accept? (.text term) with
    | some value => exact iff_of_true rfl rfl
    | none =>
      -- only members that are stored by name are not accepted as they are stored
      cases choices with
      | labels texts =>
        have own : Choices.accept? (.labels texts) (.text term) = some (.text term) :=
          if_pos listed
        rw [own] at accepted
        cases accepted
      | members all byName =>
        cases all with
        | nil => cases listed
        | cons m all =>
          exact iff_of_false (by simp [crashWith]) (by simp)

/-- A search compares with the value that a filter compares with exactly where both read alike. -/
theorem searchValue_eq_iff (compared : type.isCompared = true) :
    searchValue type term = .ok (type.exactly.coerce? (.text term)) ↔ type.ReadsAlike term := by
  cases type with
  | choice choices => exact searchValue_choice_iff
  | integer =>
    simp only [ColumnType.ReadsAlike, readsAlike_number_iff true, searchValue,
      ColumnType.exactly, ColumnType.coerce?, Value.toInt?_text]
    cases read : readNumber term true with
    | ok d => simp
    | error fault => cases fault <;> simp [crashWith]
  | numeric places exact =>
    simp only [ColumnType.ReadsAlike, readsAlike_number_iff false, searchValue,
      ColumnType.exactly, ColumnType.coerce?, Value.toNumber?_text]
    cases read : readNumber term false with
    | ok d => simp
    | error fault => cases fault <;> simp [crashWith]
  | _ => cases compared

/-- A value that a search compares with is the one that a filter compares with. -/
theorem coerce?_of_searchValue {value : Value} (h : searchValue type term = .ok (some value)) :
    type.exactly.coerce? (.text term) = some value := by
  cases type with
  | choice choices =>
    simp only [searchValue] at h
    split at h
    · split at h
      · rename_i accepted
        cases h
        exact accepted
      · cases h
      · cases h
    · cases h
  | integer =>
    simp only [searchValue] at h
    split at h <;> cases h
    rename_i read
    simp only [ColumnType.exactly, ColumnType.coerce?, Value.toInt?_text, read, Option.map_some]
  | numeric places exact =>
    simp only [searchValue] at h
    split at h <;> cases h
    rename_i read
    simp only [ColumnType.exactly, ColumnType.coerce?, Value.toNumber?_text, read]
    rfl
  | _ => cases h

theorem accepts_eq (compared : type.isCompared = true) :
    type.accepts term = (type.exactly.coerce? (.text term)).isSome := by
  rw [ColumnType.accepts, compared, Bool.not_true, Bool.false_or]
  cases type with
  | numeric places exact =>
    simp only [ColumnType.exactly, ColumnType.coerce?, Value.toNumber?_text]
    split <;> rfl
  | _ => rfl

end

/-! ## Fields -/

/-- What a search asks of a column: to equal the value that a filter reads the term as, or else to
hold the term in its text. -/
inductive Seeks (term : String) (column : ColumnRef) : Condition → Prop
  | value {name : String} {value : Value} (compared : column.column.type.isCompared = true)
      (read : column.column.type.exactly.coerce? (.text term) = some value) :
      Seeks term column (.test (.compare column .eq ⟨name, value, column.column.type⟩))
  | text {name : String} (uncompared : column.column.type.isCompared = false) :
      Seeks term column (.test (.like column true true ⟨name, .text (holding term), .text⟩))

/-- The column that a search looks into for a path; none if the path is blocked or leads nowhere. -/
def JoinPlan.searched? (plan : JoinPlan) (path : String) : Option ColumnRef :=
  if isBlockedField path then none else (plan.resolve path).toOption.map (·.2)

/-- The columns that the paths lead to and that accept the term, in order. -/
def JoinPlan.acceptors (plan : JoinPlan) (term : String) (paths : List String) : List ColumnRef :=
  (paths.filterMap plan.searched?).filter fun column => column.column.type.accepts term

section
variable {plan : JoinPlan} {term path : String} {number : Nat} {column : ColumnRef}

theorem searchField_compared (compared : column.column.type.isCompared = true) :
    searchField term path number column =
      (searchValue column.column.type term).map (·.map fun value =>
        .test (.compare column .eq
          ⟨bindName searchSpace number path "", value, column.column.type⟩)) := by
  unfold searchField
  dsimp only
  rw [if_pos (by simpa [ColumnType.isCompared] using compared)]
  cases searchValue column.column.type term <;> rfl

theorem searchField_uncompared (uncompared : column.column.type.isCompared = false) :
    searchField term path number column =
      .ok (some (.test (.like column true true
        ⟨bindName searchSpace number path "", .text (holding term), .text⟩))) := by
  unfold searchField
  dsimp only
  rw [if_neg (by simpa [ColumnType.isCompared] using uncompared)]

/-- A field asks for what a filter reads, if it asks for anything. -/
theorem seeks_of_searchField {condition : Condition}
    (h : searchField term path number column = .ok (some condition)) :
    Seeks term column condition := by
  cases compared : column.column.type.isCompared with
  | false =>
    rw [searchField_uncompared compared] at h
    cases h
    exact .text compared
  | true =>
    rw [searchField_compared compared, map_eq_ok_iff] at h
    obtain ⟨value?, hv, h⟩ := h
    obtain ⟨value, rfl, rfl⟩ := Option.map_eq_some_iff.1 h
    exact .value compared (coerce?_of_searchValue hv)

/-- A field that reads the term as a filter does asks for something exactly if it accepts it. -/
theorem searchField_isSome_iff {condition? : Option Condition}
    (h : searchField term path number column = .ok condition?) :
    condition?.isSome = column.column.type.accepts term ↔ column.column.type.ReadsAlike term := by
  cases compared : column.column.type.isCompared with
  | false =>
    rw [searchField_uncompared compared] at h
    cases h
    refine iff_of_true ?_ ?_
    · rw [ColumnType.accepts, compared]
      rfl
    · cases type : column.column.type <;> rw [type] at compared <;> trivial
  | true =>
    rw [searchField_compared compared, map_eq_ok_iff] at h
    obtain ⟨value?, hv, rfl⟩ := h
    rw [← searchValue_eq_iff compared, hv, Option.isSome_map, accepts_eq compared,
      Except.ok.injEq]
    cases value? with
    | none => cases column.column.type.exactly.coerce? (.text term) <;> simp
    | some value =>
      rw [coerce?_of_searchValue hv]
      exact iff_of_true rfl rfl

theorem exists_searchField (alike : column.column.type.ReadsAlike term) :
    ∃ condition?, searchField term path number column = .ok condition? := by
  cases compared : column.column.type.isCompared with
  | false => exact ⟨_, searchField_uncompared compared⟩
  | true =>
    rw [searchField_compared compared, (searchValue_eq_iff compared).2 alike]
    exact ⟨_, rfl⟩

end

/-! ## Lists of fields -/

section
variable {plan : JoinPlan} {term : String} {number : Nat} {paths : List String}

theorem searchFields_passed {path : String} (passed : plan.searched? path = none) :
    searchFields plan term number (path :: paths) = searchFields plan term number paths := by
  rw [searchFields]
  unfold JoinPlan.searched? at passed
  split
  · rfl
  · rename_i blocked
    rw [if_neg blocked] at passed
    cases resolved : plan.resolve path with
    | error reason => rfl
    | ok target =>
      rw [resolved] at passed
      cases passed

theorem searchFields_searched {path : String} {column : ColumnRef}
    (searched : plan.searched? path = some column) :
    searchFields plan term number (path :: paths) = (do
      match ← searchField term path number column with
      | none => searchFields plan term number paths
      | some condition =>
        let others ← searchFields plan term (number + 1) paths
        return condition :: others) := by
  rw [searchFields]
  unfold JoinPlan.searched? at searched
  split at searched
  · cases searched
  · rename_i blocked
    rw [if_neg blocked]
    cases resolved : plan.resolve path with
    | error reason =>
      rw [resolved] at searched
      cases searched
    | ok target =>
      rw [resolved] at searched
      cases searched
      rfl

theorem acceptors_passed {path : String} (passed : plan.searched? path = none) :
    plan.acceptors term (path :: paths) = plan.acceptors term paths := by
  simp only [JoinPlan.acceptors, List.filterMap_cons_none passed]

theorem acceptors_searched {path : String} {column : ColumnRef}
    (searched : plan.searched? path = some column) :
    plan.acceptors term (path :: paths) =
      if column.column.type.accepts term then column :: plan.acceptors term paths
      else plan.acceptors term paths := by
  simp only [JoinPlan.acceptors, List.filterMap_cons_some searched, List.filter_cons]

/-- Where all fields read the term as a filter does, those that accept it each ask for what a filter
reads. -/
theorem searchFields_of_alike (start : Nat)
    (alike : ∀ path ∈ paths, ∀ column, plan.searched? path = some column →
      column.column.type.ReadsAlike term) :
    ∃ conditions, searchFields plan term start paths = .ok conditions ∧
      List.Forall₂ (Seeks term) (plan.acceptors term paths) conditions := by
  induction paths generalizing start with
  | nil => exact ⟨[], rfl, .nil⟩
  | cons path paths ih =>
    obtain ⟨first, rest⟩ := List.forall_mem_cons.1 alike
    cases searched : plan.searched? path with
    | none =>
      rw [searchFields_passed searched, acceptors_passed searched]
      exact ih start rest
    | some column =>
      have alike := first column searched
      rw [searchFields_searched searched, acceptors_searched searched]
      obtain ⟨condition?, hc⟩ := @exists_searchField _ path start _ alike
      have accepted := (searchField_isSome_iff hc).2 alike
      rw [hc, ok_bind]
      cases condition? with
      | none =>
        rw [← accepted]
        exact ih start rest
      | some condition =>
        obtain ⟨others, ho, asked⟩ := ih (start + 1) rest
        rw [← accepted]
        exact ⟨condition :: others, by simp only [ho, ok_bind, pure_eq],
          .cons (seeks_of_searchField hc) asked⟩

theorem seeks_of_searchFields {conditions : List Condition}
    (h : searchFields plan term number paths = .ok conditions) :
    ∃ columns, List.Forall₂ (Seeks term) columns conditions := by
  induction paths generalizing number conditions with
  | nil =>
    cases h
    exact ⟨[], .nil⟩
  | cons path paths ih =>
    cases searched : plan.searched? path with
    | none => exact ih (searchFields_passed searched ▸ h)
    | some column =>
      rw [searchFields_searched searched, bind_eq_ok_iff] at h
      obtain ⟨condition?, hc, h⟩ := h
      cases condition? with
      | none => exact ih h
      | some condition =>
        simp only [bind_eq_ok_iff, pure_eq, Except.ok.injEq] at h
        obtain ⟨others, ho, rfl⟩ := h
        obtain ⟨columns, sought⟩ := ih ho
        exact ⟨column :: columns, .cons (seeks_of_searchField hc) sought⟩

/-- A search asks for no more than there are fields that accept the term, and for as many only
where all fields read it as a filter does. -/
theorem length_searchFields {conditions : List Condition}
    (h : searchFields plan term number paths = .ok conditions) :
    conditions.length ≤ (plan.acceptors term paths).length ∧
      (conditions.length = (plan.acceptors term paths).length →
        ∀ path ∈ paths, ∀ column, plan.searched? path = some column →
          column.column.type.ReadsAlike term) := by
  induction paths generalizing number conditions with
  | nil =>
    cases h
    exact ⟨Nat.le_refl _, fun _ => nofun⟩
  | cons path paths ih =>
    rw [List.forall_mem_cons]
    cases searched : plan.searched? path with
    | none =>
      rw [searchFields_passed searched] at h
      rw [acceptors_passed searched]
      exact ⟨(ih h).1, fun same => ⟨fun _ => (nomatch ·), (ih h).2 same⟩⟩
    | some column =>
      rw [searchFields_searched searched, bind_eq_ok_iff] at h
      obtain ⟨condition?, hc, h⟩ := h
      have accepted := searchField_isSome_iff hc
      rw [acceptors_searched searched]
      cases condition? with
      | none =>
        have more := ih h
        cases takes : column.column.type.accepts term with
        | false =>
          rw [if_neg Bool.false_ne_true]
          refine ⟨more.1, fun same => ⟨?_, more.2 same⟩⟩
          rintro _ ⟨⟩
          exact accepted.1 takes.symm
        | true =>
          -- a field that accepts the term and asks for nothing leaves the search one short
          rw [if_pos rfl, List.length_cons]
          exact ⟨Nat.le_succ_of_le more.1, fun same => absurd same (by have := more.1; omega)⟩
      | some condition =>
        simp only [bind_eq_ok_iff, pure_eq, Except.ok.injEq] at h
        obtain ⟨others, ho, rfl⟩ := h
        have takes : column.column.type.accepts term = true := by
          cases seeks_of_searchField hc with
          | value compared read => rw [accepts_eq compared, read]; rfl
          | text uncompared => rw [ColumnType.accepts, uncompared]; rfl
        have more := ih ho
        rw [if_pos takes, List.length_cons, List.length_cons]
        refine ⟨Nat.succ_le_succ more.1, fun same => ⟨?_, more.2 (Nat.succ.inj same)⟩⟩
        rintro _ ⟨⟩
        exact accepted.1 takes.symm

end

/-! ## Searches -/

/-- The condition that one of the conditions holds. -/
def Condition.bracket : List Condition → Condition
  | [] => .never
  | first :: rest => .anyOf first rest

theorem conditionNames_bracket (conditions : List Condition) :
    conditionNames [.bracket conditions] = conditionNames conditions := by
  cases conditions with
  | nil => rfl
  | cons first rest => exact conditionNames_anyOf first rest

/-- What is sought in a column takes one parameter. -/
theorem length_conditionNames {term : String} {columns : List ColumnRef}
    {conditions : List Condition} (h : List.Forall₂ (Seeks term) columns conditions) :
    (conditionNames conditions).length = conditions.length := by
  induction h with
  | nil => rfl
  | @cons column first columns rest sought others ih =>
    have one : (conditionNames [first]).length = 1 := by cases sought <;> rfl
    rw [conditionNames_cons, List.length_append, one, ih, List.length_cons, Nat.add_comm]

/-- Whether a search for a text asks nothing without a term or without fields, and else that one of
the fields that accept the term holds it, each as a filter reads it. -/
def SearchesAlike (plan : JoinPlan) (search : String) (paths : List String)
    (outcome : Outcome (Option Condition)) : Prop :=
  if trim search = "" ∨ searchPaths paths = [] then outcome = .ok none
  else ∃ conditions, outcome = .ok (some (.bracket conditions)) ∧
    List.Forall₂ (Seeks (trim search)) (plan.acceptors (trim search) (searchPaths paths)) conditions

theorem compileSearch_texts (plan : JoinPlan) (search : String) (paths : List String) :
    compileSearch plan (.text search) (.list (paths.map .text)) =
      if trim search = "" ∨ searchPaths paths = [] then .ok none
      else (searchFields plan (trim search) 0 (searchPaths paths)).map
        (some ∘ Condition.bracket) := by
  have term : searchTerm? (.text search) =
      if (trim search).isEmpty then none else some (trim search) := by
    have given : (Value.text search).isNull = false := rfl
    have text : (Value.text search).toText = search := rfl
    rw [searchTerm?, given, if_neg Bool.false_ne_true, text]
  by_cases blank : trim search = ""
  · rw [if_pos (.inl blank)]
    simp [compileSearch, term, blank, Value.parts, Value.parts?, Value.isNull]
  · have asked : searchTerm? (.text search) = some (trim search) := by simp [term, blank]
    rw [compileSearch_eq asked, Value.paths_texts, ok_bind]
    simp only [blank, false_or, searchCondition, List.isEmpty_iff]
    split
    · rfl
    · cases searchFields plan (trim search) 0 (searchPaths paths) with
      | error failure => rfl
      | ok conditions => cases conditions <;> rfl

/-- A search never fails, and each of its fields asks for what a filter on it asks for, exactly
where every field reads the term as a filter does. -/
theorem searchesAlike_iff {plan : JoinPlan} {search : String} {paths : List String} :
    SearchesAlike plan search paths
        (compileSearch plan (.text search) (.list (paths.map .text))) ↔
      (trim search ≠ "" → ∀ path ∈ searchPaths paths, ∀ column,
        plan.searched? path = some column → column.column.type.ReadsAlike (trim search)) := by
  rw [compileSearch_texts, SearchesAlike]
  by_cases nothing : trim search = "" ∨ searchPaths paths = []
  · rw [if_pos nothing, if_pos nothing]
    refine iff_of_true rfl fun some_term path hp => ?_
    rcases nothing with blank | none_listed
    · exact absurd blank some_term
    · rw [none_listed] at hp
      cases hp
  · rw [if_neg nothing, if_neg nothing]
    obtain ⟨some_term, -⟩ := not_or.1 nothing
    constructor
    · rintro ⟨asked, h, sought⟩ -
      obtain ⟨conditions, hc, same⟩ := map_eq_ok_iff.1 h
      -- both brackets take as many parameters as they have conditions
      have names : conditionNames conditions = conditionNames asked := by
        rw [← conditionNames_bracket, Option.some.inj same, conditionNames_bracket]
      have lengths := congrArg List.length names
      obtain ⟨columns, found⟩ := seeks_of_searchFields hc
      rw [length_conditionNames found, length_conditionNames sought] at lengths
      exact (length_searchFields hc).2 (lengths.trans sought.length_eq.symm)
    · intro alike
      obtain ⟨conditions, hc, sought⟩ := searchFields_of_alike 0 (alike some_term)
      exact ⟨conditions, by rw [hc]; rfl, sought⟩

/-- A number whose power of ten is beyond what decimals hold makes a search fail. -/
theorem search_fails_beyond_range :
    ¬ SearchesAlike Sample.widgets "1e1000000000000000000" ["serial"]
      (compileSearch Sample.widgets (.text "1e1000000000000000000")
        (.list (["serial"].map .text))) := by
  have fails : (compileSearch Sample.widgets
      (.text "1e1000000000000000000") (.list (["serial"].map .text))).toOption.isNone = true := by
    decide +kernel
  unfold SearchesAlike
  split
  · intro h
    rw [h] at fails
    cases fails
  · rintro ⟨conditions, h, -⟩
    rw [h] at fails
    cases fails

end RecordListing
