import RecordListing.Proofs.Outcome
import RecordListing.Proofs.Query.Demands

/-!
# What enforces a demand

A condition enforces a demand if it tests the column for what the demand is about, with values of
the type of the column (`Enforces`). A term is compiled to a condition that enforces what it asks
for, if there is any such condition (`compileTerm_realizes`).
-/

set_option autoImplicit false

namespace RecordListing

open Text Outcome

/-! ## What enforces a demand -/

/-- Whether a term asks for a whole day of a column of this type. -/
def FilterTerm.asksForDay (term : FilterTerm) (type : ColumnType) : Bool :=
  type.zoned?.isSome && term.value.isDateOnly

/-- Whether a condition on a column enforces a demand, whatever the names of its parameters. -/
inductive Enforces (field : Field) (column : ColumnRef) : Demand → Condition → Prop
  | presence {term : FilterTerm} (op : term.operator = .isNull) :
    Enforces field column (.single term) (.test (.isNull column term.value.isYes))
  | pattern {term : FilterTerm} {name : String} (op : term.operator ∈ [.like, .ilike]) :
    Enforces field column (.single term)
      (.test (.like column (field.column.kind ≠ .text) (term.operator = .ilike)
        ⟨name, .text (holding term.value.toText), .text⟩))
  | choice {term : FilterTerm} {name : String} {items values : List Value}
      (op : term.operator ∈ [.eq, .ne]) (list : term.value = .list items)
      (coerced : items.mapM (field.column.coerce term.field) = .ok values) :
    Enforces field column (.single term)
      (.test (.oneOf column (!decide (term.operator = .ne)) name values))
  | day {term : FilterTerm} {lowName highName : String} {zoned : Bool} {start stop : Timestamp}
      (op : term.operator = .eq) (whole : term.value.isDateOnly = true)
      (type : field.column.type.zoned? = some zoned)
      (bounds : dayBounds zoned term.value.dayText = .ok (start, stop)) :
    Enforces field column (.single term)
      (.both (.test (.compare column .gte ⟨lowName, .datetime start, field.column.type⟩))
        (.test (.compare column .lt ⟨highName, .datetime stop, field.column.type⟩)))
  | otherDays {term : FilterTerm} {lowName highName : String} {zoned : Bool}
      {start stop : Timestamp} (op : term.operator = .ne) (whole : term.value.isDateOnly = true)
      (type : field.column.type.zoned? = some zoned)
      (bounds : dayBounds zoned term.value.dayText = .ok (start, stop)) :
    Enforces field column (.single term)
      (.either (.test (.compare column .lt ⟨lowName, .datetime start, field.column.type⟩))
        (.test (.compare column .gte ⟨highName, .datetime stop, field.column.type⟩)))
  | equality {term : FilterTerm} {name : String} {value : Value}
      (op : term.operator ∈ [.eq, .ne]) (scalar : term.value.length? = none)
      (part : term.asksForDay field.column.type = false)
      (coerced : field.column.coerce term.field term.value = .ok value) :
    Enforces field column (.single term)
      (.test (.compare column term.operator.comparison ⟨name, value, field.column.type⟩))
  | order {term : FilterTerm} {name : String} {value : Value}
      (op : term.operator ∈ [.gt, .gte, .lt, .lte])
      (coerced : field.column.coerce term.field term.value = .ok value) :
    Enforces field column (.single term)
      (.test (.compare column term.operator.comparison ⟨name, value, field.column.type⟩))
  | range {lower upper : FilterTerm} {lowName highName : String} {low high : Value}
      (part : (lower.value.isDateOnly && upper.value.isDateOnly) = false)
      (first : field.column.coerce lower.field lower.value = .ok low)
      (last : field.column.coerce lower.field upper.value = .ok high) :
    Enforces field column (.range lower upper)
      (.test (.between column ⟨lowName, low, field.column.type⟩
        ⟨highName, high, field.column.type⟩))
  | dayRange {lower upper : FilterTerm} {lowName highName : String} {first last : Date}
      (days : (lower.value.isDateOnly && upper.value.isDateOnly) = true)
      (first_day : readDay lower.value.dayText = .ok first)
      (last_day : readDay upper.value.dayText = .ok last) :
    Enforces field column (.range lower upper)
      (.test (.dayBetween column ⟨lowName, .date first, .date⟩ ⟨highName, .date last, .date⟩))

section
variable {field : Field} {column : ColumnRef} {term : FilterTerm} {condition : Condition}

/-- The three ways to ask for equality: with one of a list, with a whole day, or with a value. -/
theorem Enforces.equality_cases (h : Enforces field column (.single term) condition)
    (op : term.operator ∈ [.eq, .ne]) :
    (∃ items values, term.value = .list items ∧
      items.mapM (field.column.coerce term.field) = .ok values) ∨
    (term.value.isDateOnly = true ∧ ∃ zoned bounds, field.column.type.zoned? = some zoned ∧
      dayBounds zoned term.value.dayText = .ok bounds) ∨
    term.value.length? = none ∧ term.asksForDay field.column.type = false ∧
      ∃ value, field.column.coerce term.field term.value = .ok value := by
  have apart {others : List Operator} (h : ∀ operator ∈ [Operator.eq, .ne], operator ∉ others) :
      term.operator ∉ others := h _ op
  cases h with
  | presence other => exact absurd (List.mem_singleton.2 other) (apart (by decide))
  | pattern other => exact absurd other (apart (by decide))
  | order other => exact absurd other (apart (by decide))
  | choice _ list coerced => exact .inl ⟨_, _, list, coerced⟩
  | day _ whole type bounds => exact .inr (.inl ⟨whole, _, _, type, bounds⟩)
  | otherDays _ whole type bounds => exact .inr (.inl ⟨whole, _, _, type, bounds⟩)
  | equality _ scalar part coerced => exact .inr (.inr ⟨scalar, part, _, coerced⟩)

/-- The order of a column and a value is asked for after the value is coerced. -/
theorem Enforces.order_coerced (h : Enforces field column (.single term) condition)
    (op : term.operator ∈ [.gt, .gte, .lt, .lte]) :
    ∃ value, field.column.coerce term.field term.value = .ok value := by
  have apart {others : List Operator}
      (h : ∀ operator ∈ [Operator.gt, .gte, .lt, .lte], operator ∉ others) :
      term.operator ∉ others := h _ op
  cases h with
  | presence other => exact absurd (List.mem_singleton.2 other) (apart (by decide))
  | pattern other => exact absurd other (apart (by decide))
  | choice other => exact absurd other (apart (by decide))
  | day other => exact absurd (List.mem_singleton.2 other) (apart (by decide))
  | otherDays other => exact absurd (List.mem_singleton.2 other) (apart (by decide))
  | equality other => exact absurd other (apart (by decide))
  | order _ coerced => exact ⟨_, coerced⟩

/-- The two ways to ask for a range: between two days, or between two values. -/
theorem Enforces.range_cases {lower upper : FilterTerm}
    (h : Enforces field column (.range lower upper) condition) :
    ((lower.value.isDateOnly && upper.value.isDateOnly) = true ∧
      (∃ first, readDay lower.value.dayText = .ok first) ∧
        ∃ last, readDay upper.value.dayText = .ok last) ∨
    ((lower.value.isDateOnly && upper.value.isDateOnly) = false ∧
      (∃ low, field.column.coerce lower.field lower.value = .ok low) ∧
        ∃ high, field.column.coerce lower.field upper.value = .ok high) := by
  cases h with
  | range part first last => exact .inr ⟨part, ⟨_, first⟩, _, last⟩
  | dayRange days first last => exact .inl ⟨days, ⟨_, first⟩, _, last⟩

end

/-- The path of the column that a demand is about. -/
def Demand.path : Demand → String
  | .single term => term.field
  | .range lower _ => lower.field

/-- Whether a path leads to a column. -/
def JoinPlan.Resolves (plan : JoinPlan) (path : String) : Prop :=
  ∃ field column, plan.resolve path = .ok (field, column)

/-- Whether a condition enforces a demand on the column that its path leads to. -/
def JoinPlan.Enforces (plan : JoinPlan) (demand : Demand) (condition : Condition) : Prop :=
  ∃ field column, plan.resolve demand.path = .ok (field, column) ∧
    RecordListing.Enforces field column demand condition

/-! ## What compiling demands comes to -/

/-- Whether an outcome is the conditions that enforce demands, if paths resolve and all of the
demands can be enforced, and a failure if not. -/
structure Realizes (plan : JoinPlan) (paths : List String) (demands : List Demand)
    (x : Outcome (List Condition × Nat)) : Prop where
  resolves : ∀ result, x = .ok result → ∀ path ∈ paths, plan.Resolves path
  enforces : ∀ result, x = .ok result → List.Forall₂ plan.Enforces demands result.1
  succeeds : (∀ path ∈ paths, plan.Resolves path) →
    (∀ demand ∈ demands, ∃ condition, plan.Enforces demand condition) → ∃ result, x = .ok result

namespace Realizes

variable {plan : JoinPlan} {paths others : List String} {demands more : List Demand}
    {path : String} {field : Field} {column : ColumnRef}
    {x : Outcome (List Condition × Nat)}

theorem nil (number : Nat) : Realizes plan [] [] (.ok ([], number)) := by
  refine ⟨fun _ _ => nofun, ?_, fun _ _ => ⟨_, rfl⟩⟩
  rintro result ⟨⟩
  exact .nil

/-- Outcomes one after the other realize all that each of them does. -/
theorem append {y : Nat → Outcome (List Condition × Nat)} (hx : Realizes plan paths demands x)
    (hy : ∀ number, Realizes plan others more (y number)) :
    Realizes plan (paths ++ others) (demands ++ more) (do
      let (conditions, number) ← x
      let (rest, next) ← y number
      return (conditions ++ rest, next)) := by
  refine ⟨fun result h => ?_, fun result h => ?_, fun found enforced => ?_⟩
  · simp only [bind_eq_ok_iff] at h
    obtain ⟨first, hf, last, hl, -⟩ := h
    intro path hp
    rcases List.mem_append.1 hp with hp | hp
    · exact hx.resolves first hf path hp
    · exact (hy first.2).resolves last hl path hp
  · simp only [bind_eq_ok_iff, pure_eq, Except.ok.injEq] at h
    obtain ⟨first, hf, last, hl, rfl⟩ := h
    exact List.rel_append (hx.enforces first hf) ((hy first.2).enforces last hl)
  · rw [List.forall_mem_append] at found enforced
    obtain ⟨first, hf⟩ := hx.succeeds found.1 enforced.1
    obtain ⟨last, hl⟩ := (hy first.2).succeeds found.2 enforced.2
    exact ⟨_, by simp only [hf, ok_bind, hl]; rfl⟩

/-- Only which paths there are matters, not how often they come. -/
theorem of_paths (h : Realizes plan paths demands x) (same : ∀ path, path ∈ paths ↔ path ∈ others) :
    Realizes plan others demands x :=
  ⟨fun result hr path hp => h.resolves result hr path ((same path).2 hp), h.enforces,
    fun found => h.succeeds fun path hp => found path ((same path).1 hp)⟩

theorem refused (reason : Refusal) (h : plan.resolve path = .error reason) (failure : Failure) :
    Realizes plan [path] demands (.error failure) := by
  refine ⟨nofun, nofun, fun found => ?_⟩
  obtain ⟨field, column, hr⟩ := found path List.mem_cons_self
  rw [h] at hr
  cases hr

theorem skipped (h : plan.resolve path = .ok (field, column)) (number : Nat) :
    Realizes plan [path] [] (.ok ([], number)) := by
  refine ⟨fun _ _ other ho => ?_, ?_, fun _ _ => ⟨_, rfl⟩⟩
  · rw [List.mem_singleton.1 ho]
    exact ⟨field, column, h⟩
  · rintro result ⟨⟩
    exact .nil

theorem enforced (demand : Demand) (h : plan.resolve demand.path = .ok (field, column))
    {condition : Condition} (enforces : RecordListing.Enforces field column demand condition)
    (number : Nat) :
    Realizes plan [demand.path] [demand] (.ok ([condition], number)) := by
  refine ⟨fun _ _ other ho => ?_, ?_, fun _ _ => ⟨_, rfl⟩⟩
  · rw [List.mem_singleton.1 ho]
    exact ⟨field, column, h⟩
  · rintro result ⟨⟩
    exact .cons ⟨field, column, h, enforces⟩ .nil

theorem failed (demand : Demand) (h : plan.resolve demand.path = .ok (field, column))
    (unenforced : ∀ condition, ¬ RecordListing.Enforces field column demand condition)
    (failure : Failure) : Realizes plan [demand.path] [demand] (.error failure) := by
  refine ⟨nofun, nofun, fun _ enforced => ?_⟩
  obtain ⟨condition, other, place, hr, he⟩ := enforced demand List.mem_cons_self
  rw [h] at hr
  cases hr
  exact absurd he (unenforced condition)

end Realizes

/-! ## Terms -/

/-- The conditions of a term, of which there is one or none. -/
def conditionsOf (x : Outcome (Option Condition × Nat)) : Outcome (List Condition × Nat) :=
  x.map fun result => (result.1.toList, result.2)

/-- What a term demands by itself. -/
def termDemands (term : FilterTerm) : List Demand :=
  if term.isSkipped then [] else [.single term]

section
variable {plan : JoinPlan} {space : String} {number : Nat} {term : FilterTerm} {field : Field}
    {column : ColumnRef}

theorem eq_or_ne {operator : Operator} (op : operator ∈ [.eq, .ne]) :
    operator = .eq ∨ operator = .ne := by simpa using op

/-- Equality is not asked for with an empty text or an empty list. -/
theorem isSkipped_equality (op : term.operator ∈ [.eq, .ne]) (present : term.value.isNull = false) :
    term.isSkipped = ((!decide (term.operator = .ne) && term.value.isEmptyText) ||
      decide (term.value.length? = some 0)) := by
  rcases eq_or_ne op with op | op
  · simp [FilterTerm.isSkipped, op, Value.isBlank, present]
  · simp [FilterTerm.isSkipped, op, present]

theorem single_realizes (found : plan.resolve term.field = .ok (field, column))
    (op : term.operator ∈ [.eq, .ne]) (scalar : term.value.length? = none)
    (part : term.asksForDay field.column.type = false) :
    Realizes plan [term.field] [.single term] (conditionsOf
      (compileEquality.single space number term field column (decide (term.operator = .ne))
        term.value)) := by
  unfold compileEquality.single
  cases coerced : field.column.coerce term.field term.value with
  | error reason =>
    refine .failed (.single term) found (fun condition h => ?_) _
    rcases h.equality_cases op with ⟨_, _, list, -⟩ | ⟨whole, _, _, type, -⟩ | ⟨-, -, value, ok⟩
    · rw [list] at scalar
      cases scalar
    · simp [FilterTerm.asksForDay, type, whole] at part
    · rw [coerced] at ok
      cases ok
  | ok value =>
    have comparison : (if decide (term.operator = .ne) then Comparison.ne else .eq) =
        term.operator.comparison := by
      rcases eq_or_ne op with op | op
      · simp [op, Operator.comparison]
      · simp [op, Operator.comparison]
    rw [comparison]
    exact .enforced (.single term) found (.equality op scalar part coerced) _

theorem wholeDay_realizes (found : plan.resolve term.field = .ok (field, column))
    (op : term.operator ∈ [.eq, .ne]) {zoned : Bool} (whole : term.value.isDateOnly = true)
    (type : field.column.type.zoned? = some zoned) :
    Realizes plan [term.field] [.single term] (conditionsOf
      (compileEquality.wholeDay space number term field column (decide (term.operator = .ne)) zoned
        term.value.dayText)) := by
  unfold compileEquality.wholeDay
  cases bounds : dayBounds zoned term.value.dayText with
  | error failure =>
    refine .failed (.single term) found (fun condition h => ?_) _
    rcases h.equality_cases op with ⟨_, _, list, -⟩ | ⟨-, zoned', _, type', ok⟩ | ⟨-, part, -⟩
    · rw [list] at whole
      cases whole
    · rw [type] at type'
      cases type'
      rw [bounds] at ok
      cases ok
    · simp [FilterTerm.asksForDay, type, whole] at part
  | ok days =>
    obtain ⟨start, stop⟩ := days
    rcases eq_or_ne op with op | op
    · rw [op]
      exact .enforced (.single term) found (.day op whole type bounds) _
    · rw [op]
      exact .enforced (.single term) found (.otherDays op whole type bounds) _

theorem choice_realizes (found : plan.resolve term.field = .ok (field, column))
    (op : term.operator ∈ [.eq, .ne]) {items : List Value} (list : term.value = .list items) :
    Realizes plan [term.field] (termDemands term)
      (conditionsOf (compileEquality space number term field column)) := by
  have present : term.value.isNull = false := by
    rw [list]
    rfl
  rw [compileEquality_list list]
  cases items with
  | nil =>
    have skipped : term.isSkipped = true := by
      rw [isSkipped_equality op present, list]
      exact Bool.or_true _
    rw [termDemands, if_pos skipped]
    exact .skipped found number
  | cons item items =>
    have asks : ¬ term.isSkipped = true := by
      rw [isSkipped_equality op present, list]
      simp [Value.isEmptyText, Value.length?]
    rw [termDemands, if_neg asks]
    dsimp only [List.isEmpty_cons]
    cases coerced : (item :: items).mapM (field.column.coerce term.field) with
    | error reason =>
      refine .failed (.single term) found (fun condition h => ?_) _
      rcases h.equality_cases op with ⟨_, _, list', ok⟩ | ⟨whole, -⟩ | ⟨scalar, -⟩
      · rw [list] at list'
        cases list'
        rw [coerced] at ok
        cases ok
      · rw [list] at whole
        cases whole
      · rw [list] at scalar
        cases scalar
    | ok values => exact .enforced (.single term) found (.choice op list coerced) _

/-- Equality with a value, where it is not a whole day that is asked for. -/
theorem compileEquality_value (op : term.operator ∈ [.eq, .ne]) (asks : term.isSkipped = false)
    (present : term.value.isNull = false) (scalar : term.value.length? = none)
    (part : term.asksForDay field.column.type = false) :
    compileEquality space number term field column =
      compileEquality.single space number term field column (decide (term.operator = .ne))
        term.value := by
  rw [isSkipped_equality op present, scalar] at asks
  have asked : (!decide (term.operator = .ne) && term.value.isEmptyText) = false := by
    simpa using asks
  rw [compileEquality_eq asked scalar]
  split
  · rename_i zoned type whole
    simp [FilterTerm.asksForDay, type, whole] at part
  · rfl

/-- Equality with a whole day. -/
theorem compileEquality_day (op : term.operator ∈ [.eq, .ne]) {zoned : Bool}
    (whole : term.value.isDateOnly = true) (type : field.column.type.zoned? = some zoned)
    (asks : term.isSkipped = false) :
    compileEquality space number term field column =
      compileEquality.wholeDay space number term field column (decide (term.operator = .ne)) zoned
        term.value.dayText := by
  have scalar : term.value.length? = none := by
    cases list : term.value.length? with
    | none => rfl
    | some n =>
      obtain ⟨items, value, -⟩ := Value.eq_list_of_length list
      rw [value] at whole
      cases whole
  have present : term.value.isNull = false := by
    cases value : term.value with
    | null => rw [value] at whole; cases whole
    | _ => rfl
  rw [isSkipped_equality op present, scalar] at asks
  have asked : (!decide (term.operator = .ne) && term.value.isEmptyText) = false := by
    simpa using asks
  rw [compileEquality_eq asked scalar, type, whole]

theorem compileEquality_realizes (found : plan.resolve term.field = .ok (field, column))
    (op : term.operator ∈ [.eq, .ne]) (present : term.value.isNull = false) :
    Realizes plan [term.field] (termDemands term)
      (conditionsOf (compileEquality space number term field column)) := by
  cases scalar : term.value.length? with
  | some n =>
    obtain ⟨items, list, -⟩ := Value.eq_list_of_length scalar
    exact choice_realizes found op list
  | none =>
    cases skipped : term.isSkipped with
    | true =>
      have nothing : compileEquality space number term field column = .ok (none, number) := by
        rw [isSkipped_equality op present, scalar] at skipped
        unfold compileEquality
        exact if_pos (by simpa using skipped)
      rw [termDemands, if_pos skipped, nothing]
      exact .skipped found number
    | false =>
      rw [termDemands, if_neg (by simp [skipped])]
      cases day : term.asksForDay field.column.type with
      | true =>
        obtain ⟨zoned, whole⟩ := Bool.and_eq_true_iff.1 day
        obtain ⟨zoned, type⟩ := Option.isSome_iff_exists.1 zoned
        rw [compileEquality_day op whole type skipped]
        exact wholeDay_realizes found op whole type
      | false =>
        rw [compileEquality_value op skipped present scalar day]
        exact single_realizes found op scalar day

theorem compileTerm_equality (found : plan.resolve term.field = .ok (field, column))
    (op : term.operator ∈ [.eq, .ne]) (present : term.value.isNull = false) :
    compileTerm plan space number term = compileEquality space number term field column := by
  unfold compileTerm
  rw [found]
  rcases eq_or_ne op with op | op <;> simp only [op, present] <;> rfl

theorem compileTerm_order (found : plan.resolve term.field = .ok (field, column))
    (op : term.operator ∈ [.gt, .gte, .lt, .lte]) (present : term.value.isNull = false) :
    compileTerm plan space number term =
      match field.column.coerce term.field term.value with
      | .error reason => refuse reason
      | .ok coerced =>
        .ok (some (.test (.compare column term.operator.comparison
          ⟨bindName space number term.field "", coerced, field.column.type⟩)), number + 1) := by
  unfold compileTerm
  rw [found]
  have cases : term.operator = .gt ∨ term.operator = .gte ∨ term.operator = .lt ∨
      term.operator = .lte := by simpa using op
  rcases cases with op | op | op | op <;> simp only [op, present] <;> rfl

theorem order_realizes (found : plan.resolve term.field = .ok (field, column))
    (op : term.operator ∈ [.gt, .gte, .lt, .lte]) (present : term.value.isNull = false) :
    Realizes plan [term.field] [.single term]
      (conditionsOf (compileTerm plan space number term)) := by
  rw [compileTerm_order found op present]
  cases coerced : field.column.coerce term.field term.value with
  | error reason =>
    refine .failed (.single term) found (fun condition h => ?_) _
    obtain ⟨value, ok⟩ := h.order_coerced op
    rw [coerced] at ok
    cases ok
  | ok value => exact .enforced (.single term) found (.order op coerced) _

theorem pattern_realizes (found : plan.resolve term.field = .ok (field, column))
    (op : term.operator ∈ [.like, .ilike]) (present : term.value.isNull = false) :
    Realizes plan [term.field] [.single term]
      (conditionsOf (compileTerm plan space number term)) := by
  have compiled : compileTerm plan space number term =
      .ok (some (.test (.like column (field.column.kind ≠ .text) (term.operator = .ilike)
        ⟨bindName space number term.field "", .text (holding term.value.toText), .text⟩)),
        number + 1) := by
    unfold compileTerm
    rw [found]
    have cases : term.operator = .like ∨ term.operator = .ilike := by simpa using op
    rcases cases with op | op <;> simp only [op, present] <;> rfl
  rw [compiled]
  exact .enforced (.single term) found (.pattern op) _

theorem absent_realizes (found : plan.resolve term.field = .ok (field, column))
    (op : term.operator ≠ .isNull) (absent : term.value.isNull = true) :
    Realizes plan [term.field] (termDemands term)
      (conditionsOf (compileTerm plan space number term)) := by
  have skipped := FilterTerm.isSkipped_absent op absent
  have nothing : compileTerm plan space number term = .ok (none, number) := by
    rw [compileTerm, found]
    dsimp only
    rw [if_neg op, if_pos absent]
  rw [termDemands, if_pos skipped, nothing]
  exact .skipped found number

/-- A term is compiled to the condition that enforces what it asks for. -/
theorem compileTerm_realizes (plan : JoinPlan) (space : String) (number : Nat) (term : FilterTerm) :
    Realizes plan [term.field] (termDemands term)
      (conditionsOf (compileTerm plan space number term)) := by
  cases found : plan.resolve term.field with
  | error reason =>
    rw [compileTerm, found]
    exact .refused reason found _
  | ok target =>
    obtain ⟨field, column⟩ := target
    by_cases absence : term.operator = .isNull
    · have asks : ¬ term.isSkipped = true := by simp [FilterTerm.isSkipped, absence]
      rw [termDemands, if_neg asks, compileTerm, found]
      dsimp only
      rw [if_pos absence]
      exact .enforced (.single term) found (.presence absence) number
    · cases absent : term.value.isNull with
      | true => exact absent_realizes found absence absent
      | false =>
        have kinds : term.operator ∈ [.eq, .ne] ∨
            term.operator ∈ [.like, .ilike, .gt, .gte, .lt, .lte] := by
          revert absence
          cases term.operator <;> decide
        rcases kinds with op | op
        · rw [compileTerm_equality found op absent]
          exact compileEquality_realizes found op absent
        · have asks : ¬ term.isSkipped = true := by simp [FilterTerm.isSkipped_other op, absent]
          rw [termDemands, if_neg asks]
          have kinds : term.operator ∈ [.like, .ilike] ∨
              term.operator ∈ [.gt, .gte, .lt, .lte] := by simpa [or_assoc] using op
          rcases kinds with op | op
          · exact pattern_realizes found op absent
          · exact order_realizes found op absent

end

theorem compileTerms_realizes (plan : JoinPlan) (space : String) (number : Nat)
    (terms : List FilterTerm) :
    Realizes plan (terms.map (·.field)) ((terms.filter (!·.isSkipped)).map .single)
      (compileTerms plan space number terms) := by
  induction terms generalizing number with
  | nil => exact .nil number
  | cons term terms ih =>
    have demands : ((term :: terms).filter (!·.isSkipped)).map Demand.single =
        termDemands term ++ (terms.filter (!·.isSkipped)).map .single := by
      cases skipped : term.isSkipped <;> simp [termDemands, skipped]
    have compiled : compileTerms plan space number (term :: terms) = (do
        let (conditions, next) ← conditionsOf (compileTerm plan space number term)
        let (rest, last) ← compileTerms plan space next terms
        return (conditions ++ rest, last)) := by
      rw [compileTerms, conditionsOf]
      cases compileTerm plan space number term <;> rfl
    rw [demands, compiled]
    exact (compileTerm_realizes plan space number term).append ih

end RecordListing
