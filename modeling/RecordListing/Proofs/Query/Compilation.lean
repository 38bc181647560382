import RecordListing.Proofs.Query.Columns
import RecordListing.Proofs.Query.Congruence

/-!
# What compiling comes to

Every stage of compiling a request that resolves a path resolves one that the plan covers. So it
never fails for a missing join, and the conditions that it gives test columns that the plan has
joined (`compileConditions_sound`, `compileSorting_sound`).
-/

set_option autoImplicit false

namespace RecordListing

open Text Outcome

/-- Whether the failure is about relations that the plan has not joined. -/
def Failure.IsMissingJoin : Failure → Prop
  | .refusal reason => reason.category = .missingJoin
  | .crash _ => False

/-- Whether an outcome is a good result, or a failure that is not about a missing join. -/
def Sound {α : Type} (good : α → Prop) (x : Outcome α) : Prop :=
  Ends (fun failure => ¬ failure.IsMissingJoin) good x

/-- Whether an outcome is no failure about a missing join. -/
abbrev NeverMissing {α : Type} (x : Outcome α) : Prop := Sound (fun _ => True) x

section
variable {α β : Type} {good : α → Prop} {fine : β → Prop}

theorem sound_ok {a : α} (h : good a) : Sound good (.ok a) := h

theorem sound_crash (reason : Crash) : Sound good (crashWith reason) := id

theorem sound_refuse {reason : Refusal} (h : reason.category ≠ .missingJoin) :
    Sound good (refuse reason) := h

theorem Sound.bind {x : Outcome α} {f : α → Outcome β} (hx : Sound good x)
    (hf : ∀ a, x = .ok a → good a → Sound fine (f a)) : Sound fine (x >>= f) := Ends.bind hx hf

theorem NeverMissing.bind {x : Outcome α} {f : α → Outcome β} (hx : NeverMissing x)
    (hf : ∀ a, Sound fine (f a)) : Sound fine (x >>= f) := Ends.bind hx fun a _ _ => hf a

theorem mapM_neverMissing {f : α → Outcome β} {items : List α}
    (h : ∀ item ∈ items, NeverMissing (f item)) : NeverMissing (items.mapM f) :=
  (Ends.mapM h).imp fun _ _ => trivial

end

/-! ## Reading a request -/

theorem asText_neverMissing (value : Value) (use : String) : NeverMissing (value.asText use) := by
  unfold Value.asText
  split
  · exact sound_ok trivial
  · exact sound_ok trivial
  · exact sound_crash _

theorem parts_neverMissing (value : Value) : NeverMissing value.parts := by
  unfold Value.parts
  split
  · exact sound_ok trivial
  · exact sound_crash _

theorem paths_neverMissing (value : Value) : NeverMissing value.paths := by
  refine (parts_neverMissing value).bind fun parts => mapM_neverMissing fun part _ => ?_
  split
  · exact sound_ok trivial
  · exact asText_neverMissing part _

theorem filterEntries_neverMissing (filters : Value) : NeverMissing (filterEntries filters) := by
  unfold filterEntries Value.entries
  split
  · exact sound_ok trivial
  · split
    · exact sound_ok trivial
    · exact sound_crash _

theorem requestTerms_neverMissing (defaults : Defaults) (request : Request) :
    NeverMissing (requestTerms defaults request) := by
  have groups : NeverMissing request.groups := by
    unfold Request.groups
    split
    · exact sound_ok trivial
    · exact parts_neverMissing _
  refine (filterEntries_neverMissing _).bind fun filters => groups.bind fun groups => ?_
  exact (mapM_neverMissing fun group _ => filterEntries_neverMissing group).bind
    fun maps => sound_ok trivial

theorem positiveOr_neverMissing {refused : Refusal} (h : refused.category ≠ .missingJoin)
    (n : Int) :
    NeverMissing (positiveOr refused n) := by
  unfold positiveOr
  split
  · exact sound_ok trivial
  · exact sound_refuse h

theorem readPositiveOr_neverMissing {refused : Refusal} (h : refused.category ≠ .missingJoin)
    (cs : List Char) : NeverMissing (readPositiveOr refused cs) := by
  unfold readPositiveOr
  split
  · exact sound_refuse h
  · split
    · exact sound_crash _
    · exact positiveOr_neverMissing h _

theorem readPositive?_neverMissing (parameter : String) (value : Value) :
    NeverMissing (readPositive? parameter value) := by
  have refused (value : Value) :
      (Refusal.invalidPagination parameter value).category ≠ .missingJoin := by
    simp [Refusal.category]
  unfold readPositive?
  split
  · exact sound_ok trivial
  · exact sound_refuse (refused _)
  · exact positiveOr_neverMissing (refused _) _
  · split
    · exact sound_ok trivial
    · exact readPositiveOr_neverMissing (refused _) _
  · exact readPositiveOr_neverMissing (refused _) _

theorem readWindow_neverMissing (page limit : Value) (usualLimit : Option Int) :
    NeverMissing (readWindow page limit usualLimit) := by
  refine (readPositive?_neverMissing _ _).bind fun page? =>
    (readPositive?_neverMissing _ _).bind fun limit? => ?_
  dsimp only
  split
  · exact sound_ok trivial
  · exact sound_crash _

theorem readSortField_neverMissing (value : Value) : NeverMissing (readSortField value) := by
  unfold readSortField
  split
  · exact sound_ok trivial
  · split
    · exact sound_ok trivial
    · exact sound_crash _

theorem readSortOrder_neverMissing (value : Value) : NeverMissing (readSortOrder value) := by
  simp only [readSortOrder]
  generalize (if value.isNull then "" else _) = word
  split
  · exact sound_ok trivial
  · split
    · exact sound_ok trivial
    · exact sound_refuse (by simp [Refusal.category])

/-! ## Filters -/

theorem JoinPlan.Covers.category_ne {plan : JoinPlan} {path : String} (h : plan.Covers path)
    {reason : Refusal} (he : plan.resolve path = .error reason) :
    reason.category ≠ .missingJoin := by
  rw [resolve_eq h, map_eq_error_iff] at he
  rcases Entity.resolve_eq_error he with ⟨segment, rfl⟩ | ⟨entity, rfl⟩ <;> simp [Refusal.category]

theorem Column.coerce_category_ne {column : Column} {path : String} {value : Value}
    {reason : Refusal} (h : column.coerce path value = .error reason) :
    reason.category ≠ .missingJoin := by
  unfold coerce at h
  split at h <;> cases h
  simp [Refusal.category]

theorem readDay_neverMissing (s : String) : NeverMissing (readDay s) := by
  unfold readDay
  split
  · exact sound_ok trivial
  · exact sound_crash _

theorem dayBounds_neverMissing (zoned : Bool) (s : String) : NeverMissing (dayBounds zoned s) := by
  unfold dayBounds
  split
  · rename_i he
    exact Ends.error (readDay_neverMissing s) he
  · split
    · exact sound_crash _
    · exact sound_ok trivial

section
variable {known : ColumnRef → Prop} {field : Field} {column : ColumnRef}
    (known_column : known column)
include known_column

theorem bounded_sound (number : Nat) (path : String) (low high : Value)
    (lowName highName : String) :
    Sound (fun result => result.1.Over known)
      (compileRange.bounded number path low high field column lowName highName) := by
  unfold compileRange.bounded
  split
  · exact sound_ok known_column
  · rename_i he
    exact sound_refuse (Column.coerce_category_ne he)
  · rename_i he _
    exact sound_refuse (Column.coerce_category_ne he)

theorem single_sound (space : String) (number : Nat) (term : FilterTerm) (negated : Bool)
    (value : Value) :
    Sound (fun result => ∀ condition ∈ result.1, condition.Over known)
      (compileEquality.single space number term field column negated value) := by
  unfold compileEquality.single
  split
  · rename_i he
    exact sound_refuse (Column.coerce_category_ne he)
  · exact sound_ok fun _ hc => Option.mem_some.1 hc ▸ known_column

theorem wholeDay_sound (space : String) (number : Nat) (term : FilterTerm) (negated zoned : Bool)
    (s : String) :
    Sound (fun result => ∀ condition ∈ result.1, condition.Over known)
      (compileEquality.wholeDay space number term field column negated zoned s) := by
  refine (dayBounds_neverMissing zoned s).bind fun bounds => ?_
  dsimp only
  split
  · exact sound_ok fun _ hc => Option.mem_some.1 hc ▸ ⟨known_column, known_column⟩
  · exact sound_ok fun _ hc => Option.mem_some.1 hc ▸ ⟨known_column, known_column⟩

theorem compileEquality_sound (space : String) (number : Nat) (term : FilterTerm) :
    Sound (fun result => ∀ condition ∈ result.1, condition.Over known)
      (compileEquality space number term field column) := by
  have items (values : List Value) : Ends (fun reason => reason.category ≠ .missingJoin)
      (fun coerced => ∀ value ∈ coerced, True)
      (values.mapM (field.column.coerce term.field)) := by
    refine Ends.mapM fun value _ => ?_
    cases h : field.column.coerce term.field value with
    | ok coerced => trivial
    | error reason => exact Column.coerce_category_ne h
  unfold compileEquality
  dsimp only
  split
  · exact sound_ok fun _ hc => nomatch hc
  · split
    · exact sound_ok fun _ hc => nomatch hc
    · split
      · rename_i he
        exact sound_refuse ((items _).error he)
      · exact sound_ok fun _ hc => Option.mem_some.1 hc ▸ known_column
    · split
      · exact wholeDay_sound known_column _ _ _ _ _ _
      · exact single_sound known_column _ _ _ _ _
    · exact single_sound known_column _ _ _ _ _

end

section
variable {plan : JoinPlan} {space : String}

theorem compileRange_sound {path : String} (h : plan.Covers path) (number : Nat)
    (low high : Value) :
    Sound (fun result => result.1.Over plan.Has)
      (compileRange plan space number path low high) := by
  unfold compileRange
  split
  · rename_i he
    exact sound_refuse (h.category_ne he)
  · rename_i he
    have known := JoinPlan.resolve_has he
    dsimp only
    split
    · split
      · exact (readDay_neverMissing _).bind fun first => (readDay_neverMissing _).bind
          fun last => sound_ok known
      · exact bounded_sound known _ _ _ _ _ _
    · exact bounded_sound known _ _ _ _ _ _

theorem compileTerm_sound {term : FilterTerm} (h : plan.Covers term.field) (number : Nat) :
    Sound (fun result => ∀ condition ∈ result.1, condition.Over plan.Has)
      (compileTerm plan space number term) := by
  unfold compileTerm
  split
  · rename_i he
    exact sound_refuse (h.category_ne he)
  · rename_i he
    have known := JoinPlan.resolve_has he
    split
    · exact sound_ok fun _ hc => Option.mem_some.1 hc ▸ known
    · split
      · exact sound_ok fun _ hc => nomatch hc
      · split
        · exact sound_ok fun _ hc => Option.mem_some.1 hc ▸ known
        · exact sound_ok fun _ hc => Option.mem_some.1 hc ▸ known
        · exact compileEquality_sound known _ _ _
        · exact compileEquality_sound known _ _ _
        · split
          · rename_i he
            exact sound_refuse (Column.coerce_category_ne he)
          · exact sound_ok fun _ hc => Option.mem_some.1 hc ▸ known

theorem compileTerms_sound {terms : List FilterTerm} (h : ∀ term ∈ terms, plan.Covers term.field)
    (number : Nat) :
    Sound (fun result => ∀ condition ∈ result.1, condition.Over plan.Has)
      (compileTerms plan space number terms) := by
  induction terms generalizing number with
  | nil => exact sound_ok fun _ hc => nomatch hc
  | cons term terms ih =>
    refine (compileTerm_sound (h term List.mem_cons_self) number).bind fun first _ hfirst =>
      (ih (fun t ht => h t (List.mem_cons_of_mem _ ht)) first.2).bind fun rest _ hrest =>
        sound_ok fun condition hc => ?_
    rcases List.mem_append.1 hc with hc | hc
    · exact hfirst condition (Option.mem_toList.1 hc)
    · exact hrest condition hc

theorem compileField_sound {path : String} {terms : List FilterTerm} (hp : plan.Covers path)
    (h : ∀ term ∈ terms, plan.Covers term.field) (number : Nat) :
    Sound (fun result => ∀ condition ∈ result.1, condition.Over plan.Has)
      (compileField plan space number path terms) := by
  unfold compileField
  split
  · exact compileTerms_sound h number
  · exact (compileRange_sound hp number _ _).bind fun range _ hrange =>
      (compileTerms_sound (fun t ht => h t (List.mem_filter.1 ht).1) range.2).bind
        fun rest _ hrest => sound_ok (List.forall_mem_cons.2 ⟨hrange, hrest⟩)

theorem compileFields_sound {fields : List (String × List FilterTerm)}
    (h : ∀ field ∈ fields, plan.Covers field.1 ∧ ∀ term ∈ field.2, plan.Covers term.field)
    (number : Nat) :
    Sound (fun result => ∀ condition ∈ result.1, condition.Over plan.Has)
      (compileFields plan space number fields) := by
  induction fields generalizing number with
  | nil => exact sound_ok fun _ hc => nomatch hc
  | cons field fields ih =>
    obtain ⟨hp, ht⟩ := h field List.mem_cons_self
    exact (compileField_sound hp ht number).bind fun first _ hfirst =>
      (ih (fun f hf => h f (List.mem_cons_of_mem _ hf)) first.2).bind fun rest _ hrest =>
        sound_ok (List.forall_mem_append.2 ⟨hfirst, hrest⟩)

theorem compileFilters_sound {terms : List FilterTerm}
    (h : ∀ term ∈ terms, plan.Covers term.field) :
    Sound (fun conditions => ∀ condition ∈ conditions, condition.Over plan.Has)
      (compileFilters plan space terms) := by
  refine Ends.map (compileFields_sound (fun field hf => ?_) 0)
  obtain ⟨⟨term, ht, he⟩, hm⟩ := mem_byField hf
  exact ⟨he ▸ h term ht, fun t hs => h t (hm t hs)⟩

theorem compileGroups_sound {groups : List (List FilterTerm)}
    (h : ∀ group ∈ groups, ∀ term ∈ group, plan.Covers term.field) (index : Nat) :
    Sound (fun conditions => ∀ condition ∈ conditions, condition.Over plan.Has)
      (compileGroups plan index groups) := by
  induction groups generalizing index with
  | nil => exact sound_ok fun _ hc => nomatch hc
  | cons group groups ih =>
    refine (compileFilters_sound (h group List.mem_cons_self)).bind fun first _ hfirst =>
      (ih (fun g hg => h g (List.mem_cons_of_mem _ hg)) (index + 1)).bind fun rest _ hrest => ?_
    split
    · exact sound_ok hrest
    · exact sound_ok (List.forall_mem_cons.2 ⟨Condition.over_allOf hfirst, hrest⟩)

theorem compileOrFilters_sound {groups : List (List FilterTerm)}
    (h : ∀ term ∈ groups.flatten, plan.Covers term.field) :
    Sound (fun bracket => ∀ condition ∈ bracket, condition.Over plan.Has)
      (compileOrFilters plan groups) := by
  refine (compileGroups_sound
    (fun g hg t ht => h t (List.mem_flatten.2 ⟨g, hg, ht⟩)) 0).bind fun conditions _ hc => ?_
  split
  · exact sound_ok fun _ hm => nomatch hm
  · exact sound_ok fun _ hm => Option.mem_some.1 hm ▸ Condition.over_anyOf hc

/-! ## Search -/

theorem searchValue_neverMissing (type : ColumnType) (term : String) :
    NeverMissing (searchValue type term) := by
  unfold searchValue
  repeat' split
  all_goals first | exact sound_ok trivial | exact sound_crash _

theorem searchField_sound {known : ColumnRef → Prop} (term path : String) (number : Nat)
    {column : ColumnRef} (known_column : known column) :
    Sound (fun result => ∀ condition ∈ result, condition.Over known)
      (searchField term path number column) := by
  unfold searchField
  dsimp only
  split
  · refine (searchValue_neverMissing _ _).bind fun value => sound_ok fun condition hc => ?_
    obtain ⟨_, _, rfl⟩ := Option.map_eq_some_iff.1 hc
    exact known_column
  · exact sound_ok fun _ hc => Option.mem_some.1 hc ▸ known_column

theorem searchFields_sound (term : String) (paths : List String) (number : Nat) :
    Sound (fun conditions => ∀ condition ∈ conditions, condition.Over plan.Has)
      (searchFields plan term number paths) := by
  induction paths generalizing number with
  | nil => exact sound_ok fun _ hc => nomatch hc
  | cons path paths ih =>
    unfold searchFields
    split
    · exact ih number
    · split
      · exact ih number
      · rename_i he
        refine (searchField_sound term path number (JoinPlan.resolve_has he)).bind
          fun condition _ hcondition => ?_
        split
        · exact ih number
        · exact (ih (number + 1)).bind fun others _ hothers =>
            sound_ok (List.forall_mem_cons.2 ⟨hcondition _ rfl, hothers⟩)

theorem compileSearch_sound (search fields : Value) :
    Sound (fun bracket => ∀ condition ∈ bracket, condition.Over plan.Has)
      (compileSearch plan search fields) := by
  unfold compileSearch
  split
  · exact sound_ok fun _ hc => nomatch hc
  · split
    · rename_i he
      exact Ends.error (parts_neverMissing fields) he
    · exact sound_ok fun _ hc => nomatch hc
    · refine (paths_neverMissing fields).bind fun paths => ?_
      unfold searchCondition
      split
      · exact sound_ok fun _ hc => nomatch hc
      · refine (searchFields_sound _ _ _).bind fun conditions _ hc => ?_
        split
        · exact sound_ok fun _ hm => Option.mem_some.1 hm ▸ trivial
        · exact sound_ok fun _ hm => Option.mem_some.1 hm ▸ Condition.over_anyOf hc

/-! ## Whole requests -/

theorem compileExtra_sound (plan : JoinPlan) (root : Entity) (used : List String)
    (asked : List (String × Value)) :
    Sound (fun conditions => ∀ condition ∈ conditions, condition.Over plan.Has)
      (compileExtra root used asked) := by
  have own (column : Column) (number : Nat) (value : Value) :
      (extraCondition column number value).Over plan.Has := by
    unfold extraCondition
    split <;> exact .inl rfl
  induction asked generalizing used with
  | nil => exact sound_ok fun _ hc => nomatch hc
  | cons first asked ih =>
    unfold compileExtra
    split
    · exact sound_crash _
    · exact (ih _).bind fun others _ hothers =>
        sound_ok (List.forall_mem_cons.2 ⟨own _ _ _, hothers⟩)

theorem over_notDeleted (root : Entity) :
    ∀ condition ∈ notDeleted root, condition.Over plan.Has := by
  unfold notDeleted
  split
  · exact fun _ hc => nomatch hc
  · exact fun _ hc => List.mem_singleton.1 hc ▸ .inl rfl

theorem compileConditions_sound {request : Request} {terms : List FilterTerm}
    {groups : List (List FilterTerm)}
    (h : ∀ term ∈ terms ++ groups.flatten, plan.Covers term.field) :
    Sound (fun conditions => ∀ condition ∈ conditions, condition.Over plan.Has)
      (compileConditions plan request terms groups) := by
  refine (compileFilters_sound fun t ht => h t (List.mem_append_left _ ht)).bind
    fun filters _ hfilters =>
      (compileOrFilters_sound fun t ht => h t (List.mem_append_right _ ht)).bind
        fun bracket _ hbracket => (compileSearch_sound _ _).bind fun search _ hsearch =>
          (compileExtra_sound plan _ _ _).bind fun extra _ hextra => sound_ok ?_
  have hidden : ∀ condition ∈ (if request.withDeleted then [] else notDeleted plan.root),
      condition.Over plan.Has := by
    split
    · exact fun _ hc => nomatch hc
    · exact over_notDeleted _
  simp only [List.forall_mem_append, Option.mem_toList]
  exact ⟨⟨⟨⟨hfilters, hbracket⟩, hsearch⟩, hextra⟩, hidden⟩

/-- Conditions that two plans give alike test columns that both have joined. -/
theorem compileConditions_known {other : JoinPlan} {request : Request} {terms : List FilterTerm}
    {groups : List (List FilterTerm)} {conditions : List Condition}
    (covers : ∀ term ∈ terms ++ groups.flatten, plan.Covers term.field)
    (covers' : ∀ term ∈ terms ++ groups.flatten, other.Covers term.field)
    (h : compileConditions plan request terms groups = .ok conditions)
    (h' : compileConditions other request terms groups = .ok conditions) :
    ∀ condition ∈ conditions,
      condition.Over fun column => plan.Has column ∧ other.Has column := by
  intro condition hc
  exact ((compileConditions_sound covers).ok h condition hc).and
    ((compileConditions_sound covers').ok h' condition hc)

theorem compileSorting_sound {sortBy : Value}
    (h : ∀ field, readSortField sortBy = .ok field → plan.Covers field) (sortOrder : Value)
    (defaultField : Option String) :
    Sound (fun sorting => plan.Has sorting.column)
      (compileSorting plan sortBy sortOrder defaultField) := by
  refine (readSortOrder_neverMissing sortOrder).bind fun order => Sound.bind
    (readSortField_neverMissing sortBy) fun field hf _ => ?_
  split
  · refine NeverMissing.bind ?_ fun column => sound_ok (.inl rfl)
    unfold rootSortColumn
    repeat' split
    · exact sound_ok trivial
    · exact sound_ok trivial
    · exact sound_crash _
    · exact sound_refuse (by simp [Refusal.category])
  · split
    · rename_i he
      exact sound_refuse ((h field hf).category_ne he)
    · rename_i he
      exact sound_ok (JoinPlan.resolve_has he)

end

end RecordListing
