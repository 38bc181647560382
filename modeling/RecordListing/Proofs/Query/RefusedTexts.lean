import RecordListing.Schema.Sample
import RecordListing.Proofs.Query.Enforcement
import RecordListing.Proofs.Query.WholeDays

/-!
# Texts that a filter refuses

A filter refuses a text that its column cannot take, and fails in no other way, except where texts
name days: those are read without regard to the column, and a day that does not exist, or has no
next one, is a failure of another kind (`refusesExactly_iff`).
-/

set_option autoImplicit false

namespace RecordListing

open Outcome

/-! ## Outcomes that refuse in one case -/

/-- Whether an outcome is a refusal exactly in a case, and never another failure. -/
def RefusesExactly {α : Type} (refusal : Refusal) (bad : Prop) (x : Outcome α) : Prop :=
  (x = refuse refusal ↔ bad) ∧ ∀ failure, x = .error failure → failure = .refusal refusal

section
variable {α β : Type} {refusal : Refusal} {bad worse : Prop} {x : Outcome α}

theorem refusesExactly_ok {a : α} : RefusesExactly refusal bad (.ok a) ↔ ¬ bad := by
  simp [RefusesExactly, refuse]

theorem refusesExactly_refuse : RefusesExactly refusal bad (refuse refusal : Outcome α) ↔ bad := by
  simp [RefusesExactly, refuse]

theorem not_refusesExactly_crash (reason : Crash) :
    ¬ RefusesExactly refusal bad (crashWith reason : Outcome α) := by
  rintro ⟨-, only⟩
  cases only _ rfl

theorem refusesExactly_map {f : α → β} :
    RefusesExactly refusal bad (x.map f) ↔ RefusesExactly refusal bad x := by
  cases x with
  | error failure => simp [RefusesExactly, refuse]
  | ok a => simp [RefusesExactly, refuse]

theorem refusesExactly_congr (h : bad ↔ worse) :
    RefusesExactly refusal bad x ↔ RefusesExactly refusal worse x := by
  rw [propext h]

/-- Of two steps that refuse in a case each, both together refuse in either case. -/
theorem RefusesExactly.bind {f : α → Outcome β} (hx : RefusesExactly refusal bad x)
    (hf : ∀ a, x = .ok a → RefusesExactly refusal worse (f a)) :
    RefusesExactly refusal (bad ∨ worse) (x >>= f) := by
  cases x with
  | error failure =>
    obtain rfl := hx.2 failure rfl
    have first : bad := hx.1.1 rfl
    exact refusesExactly_refuse.2 (.inl first)
  | ok a =>
    have first : ¬ bad := refusesExactly_ok.1 hx
    have last := hf a rfl
    rw [ok_bind]
    exact (refusesExactly_congr (by simp [first])).1 last

end

/-! ## Texts for a column -/

/-- Whether terms are the two bounds of a field, in either order. -/
def AreBounds (path low high : String) (terms : List FilterTerm) : Prop :=
  terms = [⟨path, .gte, .text low⟩, ⟨path, .lte, .text high⟩] ∨
    terms = [⟨path, .lte, .text high⟩, ⟨path, .gte, .text low⟩]

/-- Terms that supply texts for a column: one text or a list of texts for an operator, or the texts
of both bounds. -/
inductive Supplied (path : String) : List FilterTerm → List String → Prop
  | one {operator : Operator} {s : String} (op : operator ∈ [.eq, .ne, .gt, .gte, .lt, .lte])
      (asks : FilterTerm.isSkipped ⟨path, operator, .text s⟩ = false) :
    Supplied path [⟨path, operator, .text s⟩] [s]
  | list {operator : Operator} {texts : List String} (op : operator ∈ [.eq, .ne])
      (some_text : texts ≠ []) :
    Supplied path [⟨path, operator, .list (texts.map .text)⟩] texts
  | bounds {low high : String} {terms : List FilterTerm} (both : AreBounds path low high terms) :
    Supplied path terms [low, high]

/-- Whether a text names a day that has a next one. -/
def NamesDay (s : String) : Prop := ∃ day next, readDay s = .ok day ∧ Date.next? day = some next

/-- Whether the days that terms name are days that can be asked for. A whole day needs a next one,
and the days of a range have to be values that the column can take. -/
structure DaysFit (type : ColumnType) (terms : List FilterTerm) : Prop where
  whole : ∀ term ∈ terms, term.operator ∈ [.eq, .ne] → term.asksForDay type = true →
    NamesDay term.value.dayText
  range : ∀ lower ∈ terms, ∀ upper ∈ terms, lower.operator = .gte → upper.operator = .lte →
    (lower.value.isDateOnly && upper.value.isDateOnly) = true →
    ∀ value ∈ [lower.value, upper.value],
      (∃ day, readDay value.dayText = .ok day) ∧ type.coerce? value ≠ none

section
variable {plan : JoinPlan} {space path : String} {number : Nat} {field : Field} {column : ColumnRef}
    {terms : List FilterTerm} {term : FilterTerm}

theorem byField_eq (some_term : terms ≠ []) (own : ∀ term ∈ terms, term.field = path) :
    byField terms = [(path, terms)] := by
  have kept : terms.filter (·.field = path) = terms :=
    List.filter_eq_self.2 fun term hm => decide_eq_true (own term hm)
  have single : (terms.map (·.field)).eraseDups = [path] := by
    cases terms with
    | nil => exact absurd rfl some_term
    | cons term terms =>
      obtain ⟨rfl, rest⟩ := List.forall_mem_cons.1 own
      have none_left : (terms.map (·.field)).filter (fun other => !other == term.field) = [] := by
        rw [List.filter_eq_nil_iff, List.forall_mem_map]
        intro other ho
        simp [rest other ho]
      rw [List.map_cons, List.eraseDups_cons, none_left]
      rfl
  rw [byField, single, List.map_cons, List.map_nil, kept]

/-- The conditions of the terms of one field. -/
theorem compileFilters_eq (some_term : terms ≠ []) (own : ∀ term ∈ terms, term.field = path) :
    compileFilters plan space terms = (compileField plan space 0 path terms).map (·.1) := by
  rw [compileFilters, byField_eq some_term own, compileFields]
  cases compileField plan space 0 path terms with
  | error failure => rfl
  | ok result => simp [compileFields]

/-- What is made of a coerced value is refused exactly if the value cannot be coerced. -/
theorem coerced_refuses {α : Type} (column : Column) (path : String) (value : Value)
    (made : Value → α) :
    RefusesExactly (.invalidFilterValue path column.kind) (column.type.coerce? value = none)
      (match column.coerce path value with
        | .error reason => refuse reason
        | .ok coerced => .ok (made coerced)) := by
  unfold Column.coerce
  cases column.type.coerce? value with
  | none => exact refusesExactly_refuse.2 rfl
  | some coerced => exact refusesExactly_ok.2 nofun

/-- Values are coerced one by one, up to the first that cannot be. -/
theorem mapM_coerce_refuses {α : Type} (column : Column) (path : String) (values : List Value)
    (made : List Value → α) :
    RefusesExactly (.invalidFilterValue path column.kind)
      (∃ value ∈ values, column.type.coerce? value = none)
      (match values.mapM (column.coerce path) with
        | .error reason => refuse reason
        | .ok coerced => .ok (made coerced)) := by
  induction values generalizing made with
  | nil => exact refusesExactly_ok.2 (by simp)
  | cons value values ih =>
    have first (coerced : Value) := ih fun others => made (coerced :: others)
    rw [List.mapM_cons]
    cases converted : column.type.coerce? value with
    | none =>
      have refused : column.coerce path value = .error (.invalidFilterValue path column.kind) := by
        rw [Column.coerce, converted]
      rw [refused]
      exact refusesExactly_refuse.2 ⟨value, List.mem_cons_self, converted⟩
    | some coerced =>
      have taken : column.coerce path value = .ok coerced := by rw [Column.coerce, converted]
      have rest := first coerced
      have others : (∃ other ∈ value :: values, column.type.coerce? other = none) ↔
          ∃ other ∈ values, column.type.coerce? other = none := by simp [converted]
      rw [refusesExactly_congr others, taken, ok_bind]
      cases coerceds : values.mapM (column.coerce path) with
      | error reason => rwa [coerceds] at rest
      | ok coerceds' => rwa [coerceds] at rest

/-! ## Terms -/

theorem order_refuses (found : plan.resolve term.field = .ok (field, column))
    (op : term.operator ∈ [.gt, .gte, .lt, .lte]) (present : term.value.isNull = false) :
    RefusesExactly (.invalidFilterValue term.field field.column.kind)
      (field.column.type.coerce? term.value = none) (compileTerm plan space number term) := by
  rw [compileTerm_order found op present]
  exact coerced_refuses field.column term.field term.value _

theorem value_refuses (found : plan.resolve term.field = .ok (field, column))
    (op : term.operator ∈ [.eq, .ne]) (asks : term.isSkipped = false)
    (present : term.value.isNull = false) (scalar : term.value.length? = none)
    (part : term.asksForDay field.column.type = false) :
    RefusesExactly (.invalidFilterValue term.field field.column.kind)
      (field.column.type.coerce? term.value = none) (compileTerm plan space number term) := by
  rw [compileTerm_equality found op present, compileEquality_value op asks present scalar part]
  exact coerced_refuses field.column term.field term.value _

theorem list_refuses (term : FilterTerm) (found : plan.resolve term.field = .ok (field, column))
    (op : term.operator ∈ [.eq, .ne]) {items : List Value} (list : term.value = .list items)
    (some_item : items ≠ []) :
    RefusesExactly (.invalidFilterValue term.field field.column.kind)
      (∃ item ∈ items, field.column.type.coerce? item = none)
      (compileTerm plan space number term) := by
  have present : term.value.isNull = false := by
    rw [list]
    rfl
  rw [compileTerm_equality found op present, compileEquality_list list,
    if_neg (by simpa using some_item)]
  exact mapM_coerce_refuses field.column term.field items _

/-- The day of a text is found, or the failure is a crash. -/
theorem readDay_cases (s : String) :
    (∃ day, readDay s = .ok day) ∨ ∃ reason, readDay s = crashWith reason := by
  unfold readDay
  cases Date.read (Text.trimmed s.toList) with
  | ok day => exact .inl ⟨day, rfl⟩
  | error fault => exact .inr ⟨_, rfl⟩

theorem ColumnType.zoned?_eq_some {type : ColumnType} {zoned : Bool}
    (h : type.zoned? = some zoned) : type = .datetime zoned := by
  cases type with
  | datetime kept =>
    cases h
    rfl
  | _ => cases h

theorem Value.eq_text_of_isDateOnly {value : Value} (h : value.isDateOnly = true) :
    value = .text value.dayText := by
  cases value with
  | text s => rfl
  | _ => cases h

/-- A column that keeps times takes a text that names a day. -/
theorem coerce?_datetime_ne_none {s : String} {day : Date} (only : isDateOnly s = true)
    (read : readDay s = .ok day) {zoned : Bool} (type : field.column.type = .datetime zoned) :
    field.column.type.coerce? (.text s) ≠ none := by
  intro none_coerced
  obtain ⟨time, coerced, -⟩ := coerce_datetime only read field.column "" type
  unfold Column.coerce at coerced
  rw [none_coerced] at coerced
  cases coerced

theorem wholeDay_ok {s : String} (h : NamesDay s) (number : Nat) (negated zoned : Bool) :
    ∃ result, compileEquality.wholeDay space number term field column negated zoned s =
      .ok result := by
  obtain ⟨day, next, read, after⟩ := h
  unfold compileEquality.wholeDay dayBounds
  rw [read]
  dsimp only
  rw [after]
  cases negated <;> exact ⟨_, rfl⟩

theorem wholeDay_crash {s : String} (h : ¬ NamesDay s) (number : Nat) (negated zoned : Bool) :
    ∃ reason, compileEquality.wholeDay space number term field column negated zoned s =
      crashWith reason := by
  unfold compileEquality.wholeDay dayBounds
  rcases readDay_cases s with ⟨day, read⟩ | ⟨reason, read⟩
  · rw [read]
    dsimp only
    cases after : day.next? with
    | none => exact ⟨_, rfl⟩
    | some next => exact absurd ⟨day, next, read, after⟩ h
  · rw [read]
    exact ⟨reason, rfl⟩

/-- A whole day is asked for as promised exactly if there is such a day and one after it. -/
theorem day_refuses_iff (found : plan.resolve term.field = .ok (field, column))
    (op : term.operator ∈ [.eq, .ne]) (asks : term.isSkipped = false)
    (day : term.asksForDay field.column.type = true) :
    RefusesExactly (.invalidFilterValue term.field field.column.kind)
        (field.column.type.coerce? term.value = none) (compileTerm plan space number term) ↔
      NamesDay term.value.dayText := by
  obtain ⟨kept, whole⟩ := Bool.and_eq_true_iff.1 day
  obtain ⟨zoned, type⟩ := Option.isSome_iff_exists.1 kept
  have text := Value.eq_text_of_isDateOnly whole
  have present : term.value.isNull = false := by
    rw [text]
    rfl
  rw [compileTerm_equality found op present, compileEquality_day op whole type asks]
  by_cases named : NamesDay term.value.dayText
  · obtain ⟨date, next, read, after⟩ := id named
    have only : isDateOnly term.value.dayText = true := by
      rw [text] at whole
      exact whole
    -- the column takes a text that names a day, so there is nothing to refuse
    have taken := coerce?_datetime_ne_none only read (ColumnType.zoned?_eq_some type)
    rw [← text] at taken
    obtain ⟨result, compiled⟩ := wholeDay_ok named number (decide (term.operator = .ne)) zoned
    rw [compiled]
    exact iff_of_true (refusesExactly_ok.2 taken) named
  · obtain ⟨reason, compiled⟩ :=
      wholeDay_crash named number (decide (term.operator = .ne)) zoned
    rw [compiled]
    exact iff_of_false (not_refusesExactly_crash reason) named

/-! ## Ranges -/

theorem bounded_refuses (found : plan.resolve path = .ok (field, column)) {low high : Value}
    (part : (low.isDateOnly && high.isDateOnly) = false) :
    RefusesExactly (.invalidFilterValue path field.column.kind)
      (field.column.type.coerce? low = none ∨ field.column.type.coerce? high = none)
      (compileRange plan space number path low high) := by
  rw [compileRange_eq, found]
  dsimp only
  rw [if_neg (by simp [part])]
  unfold compileRange.bounded Column.coerce
  cases field.column.type.coerce? low with
  | none => exact refusesExactly_refuse.2 (.inl rfl)
  | some first =>
    cases field.column.type.coerce? high with
    | none => exact refusesExactly_refuse.2 (.inr rfl)
    | some last => exact refusesExactly_ok.2 (by simp)

/-- A range of days is asked for as promised exactly if both days exist and the column can take
them. -/
theorem dayRange_refuses_iff (found : plan.resolve path = .ok (field, column)) {low high : Value}
    (days : (low.isDateOnly && high.isDateOnly) = true) :
    RefusesExactly (.invalidFilterValue path field.column.kind)
        (field.column.type.coerce? low = none ∨ field.column.type.coerce? high = none)
        (compileRange plan space number path low high) ↔
      ∀ value ∈ [low, high],
        (∃ day, readDay value.dayText = .ok day) ∧ field.column.type.coerce? value ≠ none := by
  rw [compileRange_eq, found]
  dsimp only
  rw [if_pos days]
  simp only [List.forall_mem_cons, List.not_mem_nil, false_implies, implies_true, and_true]
  rcases readDay_cases low.dayText with ⟨first, first_day⟩ | ⟨reason, first_day⟩
  · rcases readDay_cases high.dayText with ⟨last, last_day⟩ | ⟨reason, last_day⟩
    · rw [first_day, last_day, ok_bind, ok_bind]
      simp [refusesExactly_ok, not_or]
    · rw [first_day, last_day, ok_bind]
      refine iff_of_false (not_refusesExactly_crash reason) ?_
      rintro ⟨-, ⟨_, ⟨⟩⟩, -⟩
  · rw [first_day]
    refine iff_of_false (not_refusesExactly_crash reason) ?_
    rintro ⟨⟨⟨_, ⟨⟩⟩, -⟩, -⟩

/-! ## Fields -/

theorem rangeOf?_single (term : FilterTerm) : rangeOf? [term] = none := by
  obtain ⟨field, operator, value⟩ := term
  cases operator <;> rfl

theorem compileFilters_single (term : FilterTerm) :
    compileFilters plan space [term] = (compileTerm plan space 0 term).map (·.1.toList) := by
  have own : ∀ other ∈ [term], other.field = term.field := by simp
  rw [compileFilters_eq (List.cons_ne_nil _ _) own, compileField, rangeOf?_single]
  dsimp only [compileTerms]
  cases compileTerm plan space 0 term with
  | error failure => rfl
  | ok result => simp

theorem daysFit_single {type : ColumnType} :
    DaysFit type [term] ↔
      (term.operator ∈ [.eq, .ne] → term.asksForDay type = true → NamesDay term.value.dayText) := by
  constructor
  · intro h
    exact h.whole term List.mem_cons_self
  · intro h
    refine ⟨fun other ho => List.mem_singleton.1 ho ▸ h, ?_⟩
    intro lower hl upper hu gte lte
    rw [List.mem_singleton.1 hl] at gte
    rw [List.mem_singleton.1 hu, gte] at lte
    cases lte

/-- One text is refused exactly if it cannot be coerced, unless it stands for a whole day. -/
theorem single_refuses_iff (found : plan.resolve term.field = .ok (field, column))
    (op : term.operator ∈ [.eq, .ne, .gt, .gte, .lt, .lte]) (asks : term.isSkipped = false)
    (scalar : term.value.length? = none) :
    RefusesExactly (.invalidFilterValue term.field field.column.kind)
        (field.column.type.coerce? term.value = none) (compileFilters plan space [term]) ↔
      DaysFit field.column.type [term] := by
  rw [compileFilters_single, refusesExactly_map, daysFit_single]
  have present := FilterTerm.present_of_asks asks op
  have kinds : term.operator ∈ [.eq, .ne] ∨ term.operator ∈ [.gt, .gte, .lt, .lte] := by
    simpa [or_assoc] using op
  rcases kinds with op | op
  · cases day : term.asksForDay field.column.type with
    | true => simp [day_refuses_iff found op asks day, op]
    | false => exact iff_of_true (value_refuses found op asks present scalar day) fun _ => nofun
  · refine iff_of_true (order_refuses found op present) fun equal _ => ?_
    rcases eq_or_ne equal with equal | equal
    · rw [equal] at op
      exact absurd op (by decide)
    · rw [equal] at op
      exact absurd op (by decide)

/-- The texts of a list are refused exactly if one of them cannot be coerced. -/
theorem texts_refuse_iff (found : plan.resolve path = .ok (field, column)) {operator : Operator}
    (op : operator ∈ [.eq, .ne]) {texts : List String} (some_text : texts ≠ []) :
    RefusesExactly (.invalidFilterValue path field.column.kind)
        (∃ s ∈ texts, field.column.type.coerce? (.text s) = none)
        (compileFilters plan space [⟨path, operator, .list (texts.map .text)⟩]) ↔
      DaysFit field.column.type [⟨path, operator, .list (texts.map .text)⟩] := by
  have some_value : texts.map Value.text ≠ [] := by simpa using some_text
  have refused : RefusesExactly (.invalidFilterValue path field.column.kind)
      (∃ value ∈ texts.map Value.text, field.column.type.coerce? value = none)
      (compileTerm plan space 0 ⟨path, operator, .list (texts.map .text)⟩) :=
    list_refuses ⟨path, operator, .list (texts.map .text)⟩ found op rfl some_value
  have same : (∃ value ∈ texts.map Value.text, field.column.type.coerce? value = none) ↔
      ∃ s ∈ texts, field.column.type.coerce? (.text s) = none := by simp
  rw [compileFilters_single, refusesExactly_map, daysFit_single]
  refine iff_of_true ((refusesExactly_congr same).1 refused) fun _ day => ?_
  have whole := (Bool.and_eq_true_iff.1 day).2
  cases whole

/-! ## Two bounds -/

theorem daysFit_bounds {type : ColumnType} {low high : String} (h : AreBounds path low high terms) :
    DaysFit type terms ↔ (((Value.text low).isDateOnly && (Value.text high).isDateOnly) = true →
      ∀ value ∈ [Value.text low, .text high],
        (∃ day, readDay value.dayText = .ok day) ∧ type.coerce? value ≠ none) := by
  constructor
  · intro fit
    have both : ⟨path, .gte, .text low⟩ ∈ terms ∧ ⟨path, .lte, .text high⟩ ∈ terms := by
      rcases h with rfl | rfl <;> simp
    exact fit.range _ both.1 _ both.2 rfl rfl
  · intro days
    have bound : ∀ term ∈ terms,
        term = ⟨path, .gte, .text low⟩ ∨ term = ⟨path, .lte, .text high⟩ := by
      rcases h with rfl | rfl <;> simp
    refine ⟨fun term hm op => ?_, fun lower hl upper hu gte lte => ?_⟩
    · rcases bound term hm with rfl | rfl
      · exact absurd op (show Operator.gte ∉ [.eq, .ne] by decide)
      · exact absurd op (show Operator.lte ∉ [.eq, .ne] by decide)
    · rcases bound lower hl with rfl | rfl
      · rcases bound upper hu with rfl | rfl
        · cases lte
        · exact days
      · cases gte

/-- Bounds that are no range are refused one by one. -/
theorem compileTerms_refuse (found : plan.resolve path = .ok (field, column))
    (own : ∀ term ∈ terms, term.field = path ∧ term.operator ∈ [.gt, .gte, .lt, .lte] ∧
      term.value.isNull = false) :
    RefusesExactly (.invalidFilterValue path field.column.kind)
      (∃ term ∈ terms, field.column.type.coerce? term.value = none)
      (compileTerms plan space number terms) := by
  induction terms generalizing number with
  | nil => exact refusesExactly_ok.2 (by simp)
  | cons term terms ih =>
    obtain ⟨⟨rfl, op, present⟩, rest⟩ := List.forall_mem_cons.1 own
    have step : compileTerms plan space number (term :: terms) = (do
        let result ← compileTerm plan space number term
        (compileTerms plan space result.2 terms).map fun others =>
          (result.1.toList ++ others.1, others.2)) := by
      rw [compileTerms]
      cases compileTerm plan space number term with
      | error failure => rfl
      | ok result =>
        obtain ⟨condition, next⟩ := result
        rw [ok_bind, ok_bind]
        dsimp only
        cases compileTerms plan space next terms <;> rfl
    rw [step, refusesExactly_congr (List.exists_mem_cons_iff _ _ _)]
    exact (order_refuses found op present).bind fun result _ => refusesExactly_map.2 (ih rest)

theorem AreBounds.field_eq {low high : String} (h : AreBounds path low high terms) :
    ∀ term ∈ terms, term.field = path := by
  rcases h with rfl | rfl <;> simp

theorem AreBounds.ne_nil {low high : String} (h : AreBounds path low high terms) : terms ≠ [] := by
  rcases h with rfl | rfl <;> simp

theorem AreBounds.range_eq {low high : String} (h : AreBounds path low high terms) :
    rangeOf? terms =
      if low.isEmpty || high.isEmpty then none else some (.text low, .text high) := by
  rcases h with rfl | rfl <;> rfl

/-- Two bounds that are both given are compiled as one range. -/
theorem AreBounds.compileFilters_range {low high : String} (h : AreBounds path low high terms)
    (given : (low.isEmpty || high.isEmpty) = false) :
    compileFilters plan space terms =
      (compileRange plan space 0 path (.text low) (.text high)).map fun result => [result.1] := by
  have none_left : (terms.filter fun term => !term.operator.isBound) = [] := by
    rcases h with rfl | rfl <;> rfl
  rw [compileFilters_eq h.ne_nil h.field_eq, compileField, h.range_eq, given, none_left,
    if_neg Bool.false_ne_true]
  dsimp only
  cases compileRange plan space 0 path (.text low) (.text high) <;> rfl

/-- Bounds of which one is empty are no range. -/
theorem AreBounds.compileFilters_apart {low high : String} (h : AreBounds path low high terms)
    (blank : (low.isEmpty || high.isEmpty) = true) :
    compileFilters plan space terms = (compileTerms plan space 0 terms).map (·.1) := by
  rw [compileFilters_eq h.ne_nil h.field_eq, compileField, h.range_eq, blank]
  rfl

/-- An empty text names no day. -/
theorem not_days_of_empty {low high : String} (blank : (low.isEmpty || high.isEmpty) = true) :
    ((Value.text low).isDateOnly && (Value.text high).isDateOnly) = false := by
  have no_day : (Value.text "").isDateOnly = false := by decide
  rcases Bool.or_eq_true_iff.1 blank with empty | empty
  · rw [String.isEmpty_iff.1 empty, no_day, Bool.false_and]
  · rw [String.isEmpty_iff.1 empty, no_day, Bool.and_false]

/-- The texts of two bounds are refused exactly if one cannot be coerced, unless both name days. -/
theorem bounds_refuse_iff (found : plan.resolve path = .ok (field, column)) {low high : String}
    (h : AreBounds path low high terms) :
    RefusesExactly (.invalidFilterValue path field.column.kind)
        (∃ s ∈ [low, high], field.column.type.coerce? (.text s) = none)
        (compileFilters plan space terms) ↔
      DaysFit field.column.type terms := by
  have either : (∃ s ∈ [low, high], field.column.type.coerce? (.text s) = none) ↔
      field.column.type.coerce? (.text low) = none ∨
        field.column.type.coerce? (.text high) = none := by simp
  rw [daysFit_bounds h, refusesExactly_congr either]
  cases blank : low.isEmpty || high.isEmpty with
  | true =>
    have bound : ∀ term ∈ terms, term.field = path ∧ term.operator ∈ [.gt, .gte, .lt, .lte] ∧
        term.value.isNull = false := by
      rcases h with rfl | rfl <;> simp [Value.isNull]
    have each : (∃ term ∈ terms, field.column.type.coerce? term.value = none) ↔
        field.column.type.coerce? (.text low) = none ∨
          field.column.type.coerce? (.text high) = none := by
      rcases h with rfl | rfl <;> simp [or_comm]
    rw [h.compileFilters_apart blank, refusesExactly_map, ← refusesExactly_congr each,
      not_days_of_empty blank]
    exact iff_of_true (compileTerms_refuse found bound) nofun
  | false =>
    rw [h.compileFilters_range blank, refusesExactly_map]
    cases days : (Value.text low).isDateOnly && (Value.text high).isDateOnly with
    | true => simp [dayRange_refuses_iff found days]
    | false => exact iff_of_true (bounded_refuses found days) nofun

end

/-- Texts for a column are refused exactly if one of them cannot be coerced, and nothing else goes
wrong, exactly where the days that they name can be asked for. -/
theorem refusesExactly_iff {plan : JoinPlan} {space path : String} {field : Field}
    {column : ColumnRef} {terms : List FilterTerm} {texts : List String}
    (found : plan.resolve path = .ok (field, column)) (supplied : Supplied path terms texts) :
    RefusesExactly (.invalidFilterValue path field.column.kind)
        (∃ s ∈ texts, field.column.type.coerce? (.text s) = none)
        (compileFilters plan space terms) ↔
      DaysFit field.column.type terms := by
  cases supplied with
  | @one operator s op asks =>
    have own : (∃ other ∈ [s], field.column.type.coerce? (.text other) = none) ↔
        field.column.type.coerce? (.text s) = none := by simp
    rw [refusesExactly_congr own]
    exact single_refuses_iff found op asks rfl
  | list op some_text => exact texts_refuse_iff found op some_text
  | bounds both => exact bounds_refuse_iff found both

namespace Sample

/-- Widgets without joins. -/
def widgets : JoinPlan := ⟨registry, widget, []⟩

end Sample

theorem refusesExactly_widgets :
    ∃ target, Sample.widgets.resolve "stamped" = .ok target ∧
      Supplied "stamped" [⟨"stamped", .eq, .text "2024-02-29"⟩] ["2024-02-29"] ∧
      DaysFit target.1.column.type [⟨"stamped", .eq, .text "2024-02-29"⟩] ∧
      RefusesExactly (.invalidFilterValue "stamped" target.1.column.kind)
        (∃ s ∈ ["2024-02-29"], target.1.column.type.coerce? (.text s) = none)
        (compileFilters Sample.widgets "" [⟨"stamped", .eq, .text "2024-02-29"⟩]) := by
  have supplied : Supplied "stamped" [⟨"stamped", .eq, .text "2024-02-29"⟩] ["2024-02-29"] :=
    .one (by decide) rfl
  have leap_day : NamesDay "2024-02-29" := by
    obtain ⟨day, read, after⟩ := @exists_ok_of_any _ _ (readDay "2024-02-29")
      (fun day => day.next?.isSome) (by decide +kernel)
    obtain ⟨next, after⟩ := Option.isSome_iff_exists.1 after
    exact ⟨day, next, read, after⟩
  have fit (type : ColumnType) : DaysFit type [⟨"stamped", .eq, .text "2024-02-29"⟩] :=
    daysFit_single.2 fun _ _ => leap_day
  exact ⟨_, rfl, supplied, fit _, (refusesExactly_iff rfl supplied).2 (fit _)⟩

/-- A text that names no day is not refused where a whole day is asked for. -/
theorem impossible_day_not_refused :
    ∃ target, Sample.widgets.resolve "stamped" = .ok target ∧
      Supplied "stamped" [⟨"stamped", .eq, .text "2024-02-30"⟩] ["2024-02-30"] ∧
      target.1.column.type.coerce? (.text "2024-02-30") = none ∧
      ¬ RefusesExactly (.invalidFilterValue "stamped" target.1.column.kind)
        (∃ s ∈ ["2024-02-30"], target.1.column.type.coerce? (.text s) = none)
        (compileFilters Sample.widgets "" [⟨"stamped", .eq, .text "2024-02-30"⟩]) := by
  have no_day : ¬ NamesDay "2024-02-30" := by
    rintro ⟨day, next, read, -⟩
    have unread : (readDay "2024-02-30").toOption.isNone = true := by decide +kernel
    rw [read] at unread
    cases unread
  obtain ⟨target, found, facts⟩ := @exists_ok_of_any _ _ (Sample.widgets.resolve "stamped")
    (fun target => (target.1.column.type.coerce? (.text "2024-02-30")).isNone &&
      FilterTerm.asksForDay ⟨"stamped", .eq, .text "2024-02-30"⟩ target.1.column.type)
    (by decide +kernel)
  obtain ⟨uncoercible, day⟩ := Bool.and_eq_true_iff.1 facts
  have supplied : Supplied "stamped" [⟨"stamped", .eq, .text "2024-02-30"⟩] ["2024-02-30"] :=
    .one (by decide) rfl
  refine ⟨target, found, supplied, Option.isNone_iff_eq_none.1 uncoercible, ?_⟩
  have own : (∃ s ∈ ["2024-02-30"], target.1.column.type.coerce? (.text s) = none) ↔
      target.1.column.type.coerce? (.text "2024-02-30") = none := by simp
  rw [compileFilters_single, refusesExactly_map, refusesExactly_congr own]
  exact mt (day_refuses_iff found (by decide) rfl day).1 no_day

end RecordListing
