import RecordListing.Proofs.Query.Equality

/-!
# One of several values

A list of values under equality accepts what one of its values accepts, and under the negation what
all of them accept (`list_accepts_any`). A day in a list is the exception: it does not stand for the
whole day, as it does by itself, but for its first instant (`listed_day_misses_noon`).
-/

set_option autoImplicit false

namespace RecordListing

open Outcome

/-- Whether a term is compiled to one condition, and a joined row meets it. -/
def FilterTerm.Accepts (plan : JoinPlan) (space : String) (term : FilterTerm)
    (joined : JoinedRow) : Prop :=
  ∃ condition, compileFilters plan space [term] = .ok [condition] ∧ condition.truth joined = .yes

/-- Whether the cell of a column equals what the column takes for a value. -/
def JoinedRow.equals (joined : JoinedRow) (column : ColumnRef) (value : Value) : Truth :=
  Cell.test (· == .eq) (joined.cell column) (column.take (boundCell column.column.type value))

/-- Whether a value is compared with a column as it is, once it is coerced: not as a list, nor as a
whole day. -/
structure Compared (field : Field) (path : String) (value coerced : Value) : Prop where
  given : value.isBlank = false
  scalar : value.length? = none
  part : FilterTerm.asksForDay ⟨path, .eq, value⟩ field.column.type = false
  own : field.column.coerce path value = .ok coerced

section
variable {plan : JoinPlan} {space path : String} {field : Field} {column : ColumnRef}
    {value coerced : Value} {items : List Value} {joined : JoinedRow}

/-! ## One value -/

/-- Equality with what asks for nothing gives no condition. -/
theorem compileTerm_skipped {number : Nat} {term : FilterTerm}
    (found : plan.resolve term.field = .ok (field, column)) (op : term.operator ∈ [.eq, .ne])
    (skipped : term.isSkipped = true) :
    compileTerm plan space number term = .ok (none, number) := by
  cases present : term.value.isNull with
  | true =>
    unfold compileTerm
    rw [found]
    rcases eq_or_ne op with op | op <;> simp [op, present]
  | false =>
    rw [isSkipped_equality op present, Bool.or_eq_true] at skipped
    rw [compileTerm_equality found op present]
    rcases skipped with text | empty
    · exact if_pos text
    · obtain ⟨items, list, length⟩ := Value.eq_list_of_length (of_decide_eq_true empty)
      rw [compileEquality_list list, if_pos (List.isEmpty_iff_length_eq_zero.2 length)]

/-- A value that gives a condition by itself is compared with the column, if it is neither a list
nor a whole day. -/
theorem compared_of_compiled {condition : Condition}
    (found : plan.resolve path = .ok (field, column)) (scalar : value.length? = none)
    (part : FilterTerm.asksForDay ⟨path, .eq, value⟩ field.column.type = false)
    (compiled : compileFilters plan space [⟨path, .eq, value⟩] = .ok [condition]) :
    ∃ coerced, Compared field path value coerced := by
  have op : Operator.eq ∈ [.eq, .ne] := by decide
  rw [compileFilters_single] at compiled
  cases asks : FilterTerm.isSkipped ⟨path, .eq, value⟩ with
  | true =>
    have nothing : compileTerm plan space 0 ⟨path, .eq, value⟩ = .ok (none, 0) :=
      compileTerm_skipped found op asks
    rw [nothing] at compiled
    cases compiled
  | false =>
    have given : value.isBlank = false := (Bool.or_eq_false_iff.1 asks).1
    have present : value.isNull = false := (Bool.or_eq_false_iff.1 given).1
    have term : compileTerm plan space 0 ⟨path, .eq, value⟩ = _ :=
      compileTerm_equality found op present
    rw [term, compileEquality_value op asks present scalar part, compileEquality.single] at compiled
    cases own : field.column.coerce path value with
    | error reason =>
      rw [own] at compiled
      cases compiled
    | ok coerced => exact ⟨coerced, given, scalar, part, own⟩

/-- The condition of a value that is compared as it is. -/
theorem Compared.compileFilters_eq (h : Compared field path value coerced) (space : String)
    (found : plan.resolve path = .ok (field, column)) {operator : Operator}
    (op : operator ∈ [.eq, .ne]) :
    ∃ name, compileFilters plan space [⟨path, operator, value⟩] =
      .ok [.test (.compare column operator.comparison ⟨name, coerced, field.column.type⟩)] := by
  obtain ⟨present, text⟩ := Bool.or_eq_false_iff.1 h.given
  have asks : FilterTerm.isSkipped ⟨path, operator, value⟩ = false := by
    rw [isSkipped_equality op present]
    simp [text, h.scalar]
  have term : compileTerm plan space 0 ⟨path, operator, value⟩ = _ :=
    compileTerm_equality found op present
  rw [compileFilters_single, term, compileEquality_value op asks present h.scalar h.part,
    compileEquality.single, h.own]
  rcases eq_or_ne op with rfl | rfl
  · exact ⟨_, rfl⟩
  · exact ⟨_, rfl⟩

theorem Compared.accepts_iff (h : Compared field path value coerced)
    (found : plan.resolve path = .ok (field, column)) :
    FilterTerm.Accepts plan space ⟨path, .eq, value⟩ joined ↔
      joined.equals column coerced = .yes := by
  obtain ⟨name, compiled⟩ := h.compileFilters_eq space found
    (show Operator.eq ∈ [.eq, .ne] by decide)
  obtain ⟨-, rfl⟩ := JoinPlan.resolve_eq_ok found
  simp only [FilterTerm.Accepts, compiled, Except.ok.injEq, List.cons.injEq, and_true,
    exists_eq_left']
  rfl

theorem Compared.accepts_not_iff (h : Compared field path value coerced)
    (found : plan.resolve path = .ok (field, column)) :
    FilterTerm.Accepts plan space ⟨path, .ne, value⟩ joined ↔
      joined.equals column coerced = .no := by
  obtain ⟨name, compiled⟩ := h.compileFilters_eq space found
    (show Operator.ne ∈ [.eq, .ne] by decide)
  obtain ⟨-, rfl⟩ := JoinPlan.resolve_eq_ok found
  simp only [FilterTerm.Accepts, compiled, Except.ok.injEq, List.cons.injEq, and_true,
    exists_eq_left']
  have opposite : (Condition.test (.compare _ Operator.ne.comparison
      ⟨name, coerced, field.column.type⟩)).truth joined =
        (joined.equals ⟨field.hops, field.column⟩ coerced).not :=
    (Cell.not_test .eq .ne (fun _ => rfl) _ _).symm
  rw [opposite, Truth.not_eq_yes]

/-! ## Several values -/

/-- The condition of a list of values that are compared as they are. -/
theorem compileFilters_list {taken : Value → Value} (space : String) {operator : Operator}
    (op : operator ∈ [.eq, .ne]) (found : plan.resolve path = .ok (field, column))
    (some_item : items ≠ [])
    (compared : ∀ item ∈ items, Compared field path item (taken item)) :
    ∃ name, compileFilters plan space [⟨path, operator, .list items⟩] =
      .ok [.test (.oneOf column (!decide (operator = .ne)) name (items.map taken))] := by
  have term : compileTerm plan space 0 ⟨path, operator, .list items⟩ = _ :=
    compileTerm_equality found op rfl
  have each : items.mapM (field.column.coerce path) = .ok (items.map taken) :=
    mapM_eq_map fun item hm => (compared item hm).own
  have filled : ¬ items.isEmpty = true := by simpa using some_item
  rw [compileFilters_single, term, compileEquality_list rfl, if_neg filled, each]
  exact ⟨_, rfl⟩

theorem oneOf_eq_yes {name : String} {values : List Value} :
    (Condition.test (.oneOf column true name values)).truth joined = .yes ↔
      ∃ value ∈ values, joined.equals column value = .yes := by
  refine Cell.among_eq_yes.trans ?_
  simp only [List.mem_map, exists_exists_and_eq_and]
  rfl

theorem noneOf_eq_yes {name : String} {values : List Value} :
    (Condition.test (.oneOf column false name values)).truth joined = .yes ↔
      ∀ value ∈ values, joined.equals column value = .no := by
  refine (Truth.not_eq_yes.trans Cell.among_eq_no).trans ?_
  rw [List.forall_mem_map]
  rfl

/-- A list of values accepts what one of the values accepts, and its negation what the negations of
all values accept. -/
theorem list_accepts_any {sentinel : Option String}
    (found : plan.resolve path = .ok (field, column)) (key : splitKey path = (path, .eq))
    (named : path ≠ "") (some_item : items ≠ [])
    (scalar : ∀ item ∈ items, item.length? = none)
    (plain : ∀ item ∈ items, isSentinel sentinel item = false)
    (part : ∀ item ∈ items, FilterTerm.asksForDay ⟨path, .eq, item⟩ field.column.type = false)
    (compiled : ∀ item ∈ items, ∃ condition,
      compileFilters plan space [.ofEntry sentinel path item] = .ok [condition]) :
    ∃ isAny isNone,
      compileFilters plan space [.ofEntry sentinel path (.list items)] = .ok [isAny] ∧
      compileFilters plan space [.ofEntry sentinel (Operator.ne.key path) (.list items)] =
        .ok [isNone] ∧
      ∀ joined,
        (isAny.truth joined = .yes ↔
          ∃ item ∈ items, (FilterTerm.ofEntry sentinel path item).Accepts plan space joined) ∧
        (isNone.truth joined = .yes ↔ ∀ item ∈ items,
          (FilterTerm.ofEntry sentinel (Operator.ne.key path) item).Accepts plan space joined) := by
  have not_key := splitKey_key named (show Operator.ne ∈ Operator.written by decide)
  have compared : ∀ item ∈ items, ∃ coerced, Compared field path item coerced := by
    intro item hm
    obtain ⟨condition, compiled⟩ := compiled item hm
    rw [ofEntry_eq key (plain item hm)] at compiled
    exact compared_of_compiled found (scalar item hm) (part item hm) compiled
  choose! taken compared using compared
  have list_plain : isSentinel sentinel (.list items) = false := rfl
  obtain ⟨name, any⟩ := compileFilters_list space (show Operator.eq ∈ [.eq, .ne] by decide) found
    some_item compared
  obtain ⟨other, none_of⟩ := compileFilters_list space (show Operator.ne ∈ [.eq, .ne] by decide)
    found some_item compared
  refine ⟨_, _, (ofEntry_eq key list_plain) ▸ any, (ofEntry_eq not_key list_plain) ▸ none_of,
    fun joined => ⟨?_, ?_⟩⟩
  · refine oneOf_eq_yes.trans ?_
    simp only [List.mem_map, exists_exists_and_eq_and]
    refine exists_congr fun item => and_congr_right fun hm => ?_
    rw [ofEntry_eq key (plain item hm), (compared item hm).accepts_iff found]
  · refine noneOf_eq_yes.trans ?_
    rw [List.forall_mem_map]
    refine forall₂_congr fun item hm => ?_
    rw [ofEntry_eq not_key (plain item hm), (compared item hm).accepts_not_iff found]

end

theorem list_accepts_any_weights :
    let items := [Value.text " 1.50 ", .int 3]
    let key := FilterTerm.ofEntry (some "__NULL__")
    ∃ target, Sample.widgets.resolve "weight" = .ok target ∧
      splitKey "weight" = ("weight", .eq) ∧ "weight" ≠ "" ∧ items ≠ [] ∧
      (∀ item ∈ items, item.length? = none) ∧
      (∀ item ∈ items, isSentinel (some "__NULL__") item = false) ∧
      (∀ item ∈ items, FilterTerm.asksForDay ⟨"weight", .eq, item⟩ target.1.column.type = false) ∧
      (∀ item ∈ items, ∃ condition,
        compileFilters Sample.widgets "" [key "weight" item] = .ok [condition]) ∧
      ∃ isAny isNone,
        compileFilters Sample.widgets "" [key "weight" (.list items)] = .ok [isAny] ∧
        compileFilters Sample.widgets "" [key (Operator.ne.key "weight") (.list items)] =
          .ok [isNone] ∧
        ∀ joined,
          (isAny.truth joined = .yes ↔
            ∃ item ∈ items, (key "weight" item).Accepts Sample.widgets "" joined) ∧
          (isNone.truth joined = .yes ↔ ∀ item ∈ items,
            (key (Operator.ne.key "weight") item).Accepts Sample.widgets "" joined) := by
  intro items key
  have parts : splitKey "weight" = ("weight", .eq) := by decide +kernel
  have single (item : Value)
      (h : (compileFilters Sample.widgets "" [key "weight" item]).toOption.any
        (·.length == 1) = true) :
      ∃ condition, compileFilters Sample.widgets "" [key "weight" item] = .ok [condition] := by
    obtain ⟨conditions, compiled, one⟩ := exists_ok_of_any h
    obtain ⟨condition, rfl⟩ := List.length_eq_one_iff.1 (eq_of_beq one)
    exact ⟨condition, compiled⟩
  have compiled : ∀ item ∈ items, ∃ condition,
      compileFilters Sample.widgets "" [key "weight" item] = .ok [condition] := by
    simp only [items, List.forall_mem_cons]
    exact ⟨single _ (by decide +kernel), single _ (by decide +kernel), nofun⟩
  have scalar : ∀ item ∈ items, item.length? = none := by simp [items, Value.length?]
  have plain : ∀ item ∈ items, isSentinel (some "__NULL__") item = false := by
    simp [items, isSentinel]
  refine ⟨_, rfl, parts, by decide, List.cons_ne_nil _ _, scalar, plain, fun _ _ => rfl, compiled,
    ?_⟩
  exact list_accepts_any rfl parts (by decide) (List.cons_ne_nil _ _) scalar plain (fun _ _ => rfl)
    compiled

namespace Sample

/-- A widget stamped at noon. -/
def noonWidget : JoinedRow := ⟨[("stamped", .text "2024-01-15 12:00:00.000000")], []⟩

end Sample

/-- A day by itself accepts a widget stamped at its noon, a list of the day does not. -/
theorem listed_day_misses_noon :
    let day := Value.text "2024-01-15"
    ∃ isAny, compileFilters Sample.widgets "" [.ofEntry none "stamped" (.list [day])] =
        .ok [isAny] ∧
      ¬ (isAny.truth Sample.noonWidget = .yes ↔ ∃ item ∈ [day],
        (FilterTerm.ofEntry none "stamped" item).Accepts Sample.widgets "" Sample.noonWidget) := by
  intro day
  obtain ⟨ofList, compiled, no_truth⟩ := @exists_ok_of_any _ _
    (compileFilters Sample.widgets "" [.ofEntry none "stamped" (.list [day])])
    (fun conditions => conditions.map (·.truth Sample.noonWidget) == [.no]) (by decide +kernel)
  obtain ⟨ofDay, compiled', yes_truth⟩ := @exists_ok_of_any _ _
    (compileFilters Sample.widgets "" [.ofEntry none "stamped" day])
    (fun conditions => conditions.map (·.truth Sample.noonWidget) == [.yes]) (by decide +kernel)
  obtain ⟨isAny, rfl, missed⟩ := List.map_eq_singleton_iff.1 (eq_of_beq no_truth)
  obtain ⟨onDay, rfl, met⟩ := List.map_eq_singleton_iff.1 (eq_of_beq yes_truth)
  refine ⟨isAny, compiled, fun same => ?_⟩
  have accepted := same.2 ⟨day, List.mem_cons_self, onDay, compiled', met⟩
  rw [missed] at accepted
  cases accepted

end RecordListing
