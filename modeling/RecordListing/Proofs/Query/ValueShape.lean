import RecordListing.Query.Filter
import RecordListing.Proofs.Query.SqlText

/-!
# What filters show of their values

A condition is chosen by the field and the operator of a term, and by little of its value: whether
it is absent, empty or a whole day, how long a list it is, and under `isnull` whether it is yes
(`ValueShape`). Terms that agree in this much give the same conditions but for values, named alike
(`compileFilters_agree`).
-/

set_option autoImplicit false

namespace RecordListing

open Outcome

/-! ## Shapes -/

/-- What the choice of a condition goes by of a value. -/
structure ValueShape where
  /-- Absent. -/
  null : Bool
  /-- The empty text. -/
  empty : Bool
  /-- How long a list it is, if it is one. -/
  length : Option Nat
  /-- A text that names a whole day. -/
  day : Bool
  /-- Yes, where the operator asks for that. -/
  yes : Bool
deriving DecidableEq

namespace Value

def length? : Value → Option Nat
  | .list items => some items.length
  | _ => none

def shape (operator : Operator) (value : Value) : ValueShape where
  null := value.isNull
  empty := value.isEmptyText
  length := value.length?
  day := value.isDateOnly
  yes := operator = .isNull && value.isYes

/-- The text of a value that names a whole day. -/
def dayText : Value → String
  | .text s => s
  | _ => ""

theorem eq_list_of_length {value : Value} {n : Nat} (h : value.length? = some n) :
    ∃ items, value = .list items ∧ items.length = n := by
  cases value with
  | list items => exact ⟨items, rfl, Option.some.inj h⟩
  | _ => cases h

end Value

/-- Whether times of a zone are kept, for columns that keep times at all. -/
def ColumnType.zoned? : ColumnType → Option Bool
  | .datetime zoned => some zoned
  | _ => none

/-- What a term shows. -/
structure TermOutline where
  field : String
  operator : Operator
  shape : ValueShape
deriving DecidableEq

def FilterTerm.outline (term : FilterTerm) : TermOutline :=
  ⟨term.field, term.operator, term.value.shape term.operator⟩

/-! ## Equality -/

section
variable {space : String} {number : Nat} {field : Field} {column : ColumnRef}

/-- What is compiled for a term, without values. -/
def bare (result : Option Condition × Nat) : Option Condition × Nat :=
  (result.1.map Condition.emptied, result.2)

theorem single_agree {term other : FilterTerm} (h : term.field = other.field) (negated : Bool)
    (value value' : Value) :
    Agree bare (compileEquality.single space number term field column negated value)
      (compileEquality.single space number other field column negated value') := by
  unfold compileEquality.single
  rw [h]
  cases field.column.coerce other.field value with
  | error reason => exact .error_left
  | ok first =>
    cases field.column.coerce other.field value' with
    | error reason => exact .error_right
    | ok second => exact .ok rfl

theorem wholeDay_agree {term other : FilterTerm} (h : term.field = other.field)
    (negated zoned : Bool) (s t : String) :
    Agree bare (compileEquality.wholeDay space number term field column negated zoned s)
      (compileEquality.wholeDay space number other field column negated zoned t) := by
  unfold compileEquality.wholeDay
  rw [h]
  refine Agree.bind (f := fun _ => ()) (fun _ _ _ _ => rfl) fun bounds bounds' _ _ _ => ?_
  cases negated <;> exact .ok rfl

/-- Equality with what is no list: with a whole day if the value names one and the column keeps
times, else with the value. -/
theorem compileEquality_eq {term : FilterTerm}
    (asked : (!decide (term.operator = .ne) && term.value.isEmptyText) = false)
    (plain : term.value.length? = none) :
    compileEquality space number term field column =
      match field.column.type.zoned?, term.value.isDateOnly with
      | some zoned, true => compileEquality.wholeDay space number term field column
          (decide (term.operator = .ne)) zoned term.value.dayText
      | _, _ => compileEquality.single space number term field column
          (decide (term.operator = .ne)) term.value := by
  unfold compileEquality
  simp only [asked, Bool.false_eq_true, if_false]
  cases hv : term.value with
  | list items => rw [hv] at plain; cases plain
  | text s =>
    cases field.column.type with
    | datetime zoned =>
      cases day : isDateOnly s <;> simp [ColumnType.zoned?, Value.isDateOnly, Value.dayText, day]
    | _ => rfl
  | _ => cases field.column.type <;> rfl

/-- Equality with one of the values of a list, which asks for nothing if it is empty. -/
theorem compileEquality_list {term : FilterTerm} {items : List Value}
    (hv : term.value = .list items) :
    compileEquality space number term field column =
      if items.isEmpty then .ok (none, number)
      else match items.mapM (field.column.coerce term.field) with
        | .error reason => refuse reason
        | .ok values =>
          .ok (some (.test (.oneOf column (!decide (term.operator = .ne))
            (bindName space number term.field "") values)), number + 1) := by
  unfold compileEquality
  rw [hv]
  simp only [Value.isEmptyText, Bool.and_false, Bool.false_eq_true, if_false]
  cases items <;> rfl

theorem list_agree {term other : FilterTerm} (hf : term.field = other.field)
    (ho : term.operator = other.operator) {items items' : List Value}
    (hv : term.value = .list items) (hv' : other.value = .list items')
    (length : items.length = items'.length) :
    Agree bare (compileEquality space number term field column)
      (compileEquality space number other field column) := by
  have emptiness : items.isEmpty = items'.isEmpty := by
    rw [Bool.eq_iff_iff, List.isEmpty_iff_length_eq_zero, List.isEmpty_iff_length_eq_zero, length]
  rw [compileEquality_list hv, compileEquality_list hv', hf, ho, emptiness]
  split
  · exact .refl _ _
  · cases h : items.mapM (field.column.coerce other.field) with
    | error reason => exact .error_left
    | ok values =>
      cases h' : items'.mapM (field.column.coerce other.field) with
      | error reason => exact .error_right
      | ok values' =>
        have lengths : values.length = values'.length := by
          rw [((mapM_eq_ok_iff Value.null).1 h).2, ((mapM_eq_ok_iff Value.null).1 h').2,
            List.length_map, List.length_map, length]
        refine .ok ?_
        simp only [bare, Option.map_some, Condition.emptied, Test.emptied, List.map_const', lengths]

theorem compileEquality_agree {term other : FilterTerm} (h : term.outline = other.outline) :
    Agree bare (compileEquality space number term field column)
      (compileEquality space number other field column) := by
  obtain ⟨hf, ho, shapes⟩ := TermOutline.mk.inj h
  obtain ⟨-, empty, length, day, -⟩ := ValueShape.mk.inj shapes
  cases hn : other.value.length? with
  | some n =>
    obtain ⟨items, hv, hl⟩ := Value.eq_list_of_length (length.trans hn)
    obtain ⟨items', hv', hl'⟩ := Value.eq_list_of_length hn
    exact list_agree hf ho hv hv' (hl.trans hl'.symm)
  | none =>
    cases asked : !decide (other.operator = .ne) && other.value.isEmptyText with
    | true =>
      have nothing (term : FilterTerm)
          (asked : (!decide (term.operator = .ne) && term.value.isEmptyText) = true) :
          compileEquality space number term field column = .ok (none, number) := if_pos asked
      rw [nothing other asked, nothing term (by rw [ho, empty, asked])]
      exact .refl _ _
    | false =>
      rw [compileEquality_eq asked hn,
        compileEquality_eq (by rw [ho, empty, asked]) (length.trans hn), day, ho]
      split
      · exact wholeDay_agree hf _ _ _ _
      · exact single_agree hf _ _ _

end

/-! ## Terms -/

section
variable {plan : JoinPlan} {space : String} {number : Nat}

theorem compileTerm_agree {term other : FilterTerm} (h : term.outline = other.outline) :
    Agree bare (compileTerm plan space number term) (compileTerm plan space number other) := by
  obtain ⟨hf, ho, shapes⟩ := TermOutline.mk.inj h
  obtain ⟨null, -, -, -, yes⟩ := ValueShape.mk.inj shapes
  unfold compileTerm
  rw [hf, ho, null]
  cases plan.resolve other.field with
  | error reason => exact .error_left
  | ok target =>
    obtain ⟨field, column⟩ := target
    dsimp only
    split
    · rename_i op
      rw [ho, op] at yes
      have yes : term.value.isYes = other.value.isYes := by simpa using yes
      rw [yes]
      exact .refl _ _
    · split
      · exact .refl _ _
      · split
        · exact .ok rfl
        · exact .ok rfl
        · exact compileEquality_agree h
        · exact compileEquality_agree h
        · cases field.column.coerce other.field term.value with
          | error reason => exact .error_left
          | ok value =>
            cases field.column.coerce other.field other.value with
            | error reason => exact .error_right
            | ok value' => exact .ok rfl

/-- What is compiled for terms, without values. -/
def bareAll (result : List Condition × Nat) : List Condition × Nat :=
  (result.1.map Condition.emptied, result.2)

theorem compileTerms_agree {terms others : List FilterTerm}
    (h : terms.map FilterTerm.outline = others.map FilterTerm.outline) :
    Agree bareAll (compileTerms plan space number terms)
      (compileTerms plan space number others) := by
  induction terms generalizing others number with
  | nil =>
    obtain rfl := List.map_eq_nil_iff.1 h.symm
    exact .refl _ _
  | cons term terms ih =>
    cases others with
    | nil => cases h
    | cons other others =>
      obtain ⟨first, rest⟩ := List.cons.inj h
      refine Agree.bind (compileTerm_agree first) fun ⟨_, next⟩ ⟨_, next'⟩ _ _ same => ?_
      obtain ⟨condition, rfl⟩ := Prod.mk.inj same
      refine Agree.bind (ih rest) fun ⟨_, last⟩ ⟨_, last'⟩ _ _ same => ?_
      obtain ⟨conditions, rfl⟩ := Prod.mk.inj same
      refine .ok ?_
      simp only [bareAll, List.map_append, ← Option.toList_map, condition, conditions]

/-! ## Ranges -/

theorem compileRange_eq (path : String) (low high : Value) :
    compileRange plan space number path low high =
      match plan.resolve path with
      | .error reason => refuse reason
      | .ok (field, column) =>
        let lowName := bindName space number path "_from"
        let highName := bindName space (number + 1) path "_to"
        if low.isDateOnly && high.isDateOnly then do
          let first ← readDay low.dayText
          let last ← readDay high.dayText
          return (.test (.dayBetween column ⟨lowName, .date first, .date⟩
            ⟨highName, .date last, .date⟩), number + 2)
        else compileRange.bounded number path low high field column lowName highName := by
  unfold compileRange
  cases plan.resolve path with
  | error reason => rfl
  | ok target =>
    cases low with
    | text s => cases high <;> simp [Value.isDateOnly, Value.dayText]
    | _ => simp [Value.isDateOnly]

theorem bounded_agree (path : String) (low high low' high' : Value) (field : Field)
    (column : ColumnRef) (lowName highName : String) :
    Agree (fun result => (result.1.emptied, result.2))
      (compileRange.bounded number path low high field column lowName highName)
      (compileRange.bounded number path low' high' field column lowName highName) := by
  have same (low high : Value) {result : Condition × Nat}
      (h : compileRange.bounded number path low high field column lowName highName = .ok result) :
      (result.1.emptied, result.2) = (Condition.test (.between column
        ⟨lowName, .null, field.column.type⟩ ⟨highName, .null, field.column.type⟩), number + 2) := by
    unfold compileRange.bounded at h
    split at h <;> cases h
    rfl
  intro result result' h h'
  exact (same low high h).trans (same low' high' h').symm

theorem compileRange_agree (path : String) {low high low' high' : Value}
    (hl : low.isDateOnly = low'.isDateOnly) (hh : high.isDateOnly = high'.isDateOnly) :
    Agree (fun result => (result.1.emptied, result.2))
      (compileRange plan space number path low high)
      (compileRange plan space number path low' high') := by
  rw [compileRange_eq, compileRange_eq, hl, hh]
  cases plan.resolve path with
  | error reason => exact .error_left
  | ok target =>
    dsimp only
    split
    · refine Agree.bind (f := fun _ => ()) (fun _ _ _ _ => rfl) fun _ _ _ _ _ => ?_
      refine Agree.bind (f := fun _ => ()) (fun _ _ _ _ => rfl) fun _ _ _ _ _ => ?_
      exact .ok rfl
    · exact bounded_agree _ _ _ _ _ _ _ _ _

/-- The shape of the last value under an operator. -/
theorem map_shape_valueUnder? (operator : Operator) (terms : List FilterTerm) :
    (valueUnder? operator terms).map (Value.shape operator) =
      ((terms.map FilterTerm.outline).reverse.find? (·.operator = operator)).map (·.shape) := by
  have under : (fun outline : TermOutline => decide (outline.operator = operator)) ∘
      FilterTerm.outline = fun term => decide (term.operator = operator) := rfl
  rw [← List.map_reverse, List.find?_map, under, Option.map_map, valueUnder?, Option.map_map]
  cases found : terms.reverse.find? (·.operator = operator) with
  | none => rfl
  | some term =>
    have own : term.operator = operator := by simpa using List.find?_some found
    simp [FilterTerm.outline, own]

theorem rangeOf?_congr {terms others : List FilterTerm}
    (h : terms.map FilterTerm.outline = others.map FilterTerm.outline) :
    (rangeOf? terms).map (fun range => (range.1.shape .gte, range.2.shape .lte)) =
      (rangeOf? others).map fun range => (range.1.shape .gte, range.2.shape .lte) := by
  have lower := map_shape_valueUnder? .gte terms
  have upper := map_shape_valueUnder? .lte terms
  rw [h, ← map_shape_valueUnder?] at lower upper
  unfold rangeOf?
  cases hl : valueUnder? .gte terms with
  | none =>
    rw [hl] at lower
    rw [Option.map_eq_none_iff.1 lower.symm]
  | some low =>
    rw [hl, Option.map_some, eq_comm, Option.map_eq_some_iff] at lower
    obtain ⟨low', hl', low_shape⟩ := lower
    cases hh : valueUnder? .lte terms with
    | none =>
      rw [hh] at upper
      rw [hl', Option.map_eq_none_iff.1 upper.symm]
    | some high =>
      rw [hh, Option.map_some, eq_comm, Option.map_eq_some_iff] at upper
      obtain ⟨high', hh', high_shape⟩ := upper
      have blank {operator : Operator} {value value' : Value}
          (same : value'.shape operator = value.shape operator) :
          value'.isBlank = value.isBlank := by
        obtain ⟨null, empty, -⟩ := ValueShape.mk.inj same
        rw [Value.isBlank, Value.isBlank, null, empty]
      simp only [hl', hh', blank low_shape, blank high_shape]
      split
      · rfl
      · simp only [Option.map_some, low_shape, high_shape]

/-! ## Fields -/

theorem map_outline_filter (p : TermOutline → Bool) (terms : List FilterTerm) :
    (terms.filter fun term => p term.outline).map FilterTerm.outline =
      (terms.map FilterTerm.outline).filter p :=
  (List.filter_map ..).symm

theorem compileField_agree (path : String) {terms others : List FilterTerm}
    (h : terms.map FilterTerm.outline = others.map FilterTerm.outline) :
    Agree bareAll (compileField plan space number path terms)
      (compileField plan space number path others) := by
  have ranges := rangeOf?_congr h
  unfold compileField
  cases hr : rangeOf? terms with
  | none =>
    rw [hr] at ranges
    rw [Option.map_eq_none_iff.1 ranges.symm]
    exact compileTerms_agree h
  | some range =>
    obtain ⟨low, high⟩ := range
    rw [hr, Option.map_some, eq_comm, Option.map_eq_some_iff] at ranges
    obtain ⟨⟨low', high'⟩, hr', same⟩ := ranges
    obtain ⟨low_shape, high_shape⟩ := Prod.mk.inj same
    have low_day : low.isDateOnly = low'.isDateOnly := (congrArg ValueShape.day low_shape).symm
    have high_day : high.isDateOnly = high'.isDateOnly := (congrArg ValueShape.day high_shape).symm
    rw [hr']
    refine Agree.bind (compileRange_agree path low_day high_day)
      fun ⟨_, next⟩ ⟨_, next'⟩ _ _ same => ?_
    obtain ⟨condition, rfl⟩ := Prod.mk.inj same
    have rest : (terms.filter fun term => !term.operator.isBound).map FilterTerm.outline =
        (others.filter fun term => !term.operator.isBound).map FilterTerm.outline := by
      have kept := map_outline_filter fun outline => !outline.operator.isBound
      exact (kept terms).trans (h ▸ (kept others).symm)
    refine Agree.bind (compileTerms_agree rest) fun ⟨_, last⟩ ⟨_, last'⟩ _ _ same => ?_
    obtain ⟨conditions, rfl⟩ := Prod.mk.inj same
    refine .ok ?_
    simp only [bareAll, List.map_cons, condition, conditions]

/-- What the terms of a field show. -/
def fieldOutline (field : String × List FilterTerm) : String × List TermOutline :=
  (field.1, field.2.map FilterTerm.outline)

theorem compileFields_agree {fields others : List (String × List FilterTerm)}
    (h : fields.map fieldOutline = others.map fieldOutline) :
    Agree bareAll (compileFields plan space number fields)
      (compileFields plan space number others) := by
  induction fields generalizing others number with
  | nil =>
    obtain rfl := List.map_eq_nil_iff.1 h.symm
    exact .refl _ _
  | cons field fields ih =>
    cases others with
    | nil => cases h
    | cons other others =>
      obtain ⟨path, terms⟩ := field
      obtain ⟨path', terms'⟩ := other
      obtain ⟨first, rest⟩ := List.cons.inj h
      obtain ⟨rfl, outlines⟩ := Prod.mk.inj first
      refine Agree.bind (compileField_agree path outlines)
        fun ⟨_, next⟩ ⟨_, next'⟩ _ _ same => ?_
      obtain ⟨own, rfl⟩ := Prod.mk.inj same
      refine Agree.bind (ih rest) fun ⟨_, last⟩ ⟨_, last'⟩ _ _ same => ?_
      obtain ⟨conditions, rfl⟩ := Prod.mk.inj same
      refine .ok ?_
      simp only [bareAll, List.map_append, own, conditions]

theorem byField_congr {terms others : List FilterTerm}
    (h : terms.map FilterTerm.outline = others.map FilterTerm.outline) :
    (byField terms).map fieldOutline = (byField others).map fieldOutline := by
  have paths : terms.map (·.field) = others.map (·.field) := by
    have fields := congrArg (List.map TermOutline.field) h
    rwa [List.map_map, List.map_map] at fields
  have own (path : String) : (terms.filter (·.field = path)).map FilterTerm.outline =
      (others.filter (·.field = path)).map FilterTerm.outline := by
    have kept := map_outline_filter fun outline => decide (outline.field = path)
    exact (kept terms).trans (h ▸ (kept others).symm)
  simp only [byField, List.map_map, Function.comp_def, fieldOutline, paths, own]

/-- Filters that show the same give the same conditions but for values. -/
theorem compileFilters_agree {terms others : List FilterTerm}
    (h : terms.map FilterTerm.outline = others.map FilterTerm.outline) :
    Agree (List.map Condition.emptied) (compileFilters plan space terms)
      (compileFilters plan space others) := by
  refine Agree.map fun result result' hr hr' => ?_
  exact (Prod.mk.inj (compileFields_agree (byField_congr h) result result' hr hr')).1

/-! ## Groups -/

theorem compileGroups_agree {groups others : List (List FilterTerm)}
    (h : groups.map (List.map FilterTerm.outline) = others.map (List.map FilterTerm.outline))
    (index : Nat) :
    Agree (List.map Condition.emptied) (compileGroups plan index groups)
      (compileGroups plan index others) := by
  induction groups generalizing others index with
  | nil =>
    obtain rfl := List.map_eq_nil_iff.1 h.symm
    exact .refl _ _
  | cons group groups ih =>
    cases others with
    | nil => cases h
    | cons other others =>
      obtain ⟨first, rest⟩ := List.cons.inj h
      refine Agree.bind (compileFilters_agree first) fun own own' _ _ same => ?_
      refine Agree.bind (ih rest (index + 1)) fun conditions conditions' _ _ others_same => ?_
      cases own with
      | nil =>
        obtain rfl := List.map_eq_nil_iff.1 same.symm
        exact .ok others_same
      | cons condition own =>
        cases own' with
        | nil => cases same
        | cons condition' own' =>
          obtain ⟨head, tail⟩ := List.cons.inj same
          refine .ok ?_
          rw [List.map_cons, List.map_cons, Condition.emptied_allOf, Condition.emptied_allOf, head,
            tail, others_same]

theorem compileOrFilters_agree {groups others : List (List FilterTerm)}
    (h : groups.map (List.map FilterTerm.outline) = others.map (List.map FilterTerm.outline)) :
    Agree (Option.map Condition.emptied) (compileOrFilters plan groups)
      (compileOrFilters plan others) := by
  refine Agree.bind (compileGroups_agree h 0) fun conditions conditions' _ _ same => ?_
  cases conditions with
  | nil =>
    obtain rfl := List.map_eq_nil_iff.1 same.symm
    exact .refl _ _
  | cons first rest =>
    cases conditions' with
    | nil => cases same
    | cons first' rest' =>
      obtain ⟨head, tail⟩ := List.cons.inj same
      refine .ok ?_
      rw [Option.map_some, Option.map_some, Condition.emptied_anyOf, Condition.emptied_anyOf, head,
        tail]

end

end RecordListing
