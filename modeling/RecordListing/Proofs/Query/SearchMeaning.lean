import RecordListing.Proofs.Query.Columns
import RecordListing.Proofs.Query.Unnamed
import RecordListing.Query.Search

/-!
# What a search asks for

Which fields can take a search term depends on the schema and the term alone (`Entity.canSearch`).
The condition of a search is met by a joined row if one of the listed fields can take the term and
holds it there, wherever it stands in the list (`compileSearch_met_iff`). Fields that cannot take it
leave no trace in the condition (`compileSearch_without`).
-/

set_option autoImplicit false

namespace RecordListing

open Outcome

/-! ## Fields that can take a term -/

/-- Whether columns of this type can be searched for a term. -/
def ColumnType.takes (type : ColumnType) (term : String) : Bool :=
  match type with
  | .choice choices => choices.texts.contains term
  | .integer => (readNumber term true).toBool
  | .numeric _ _ => (readNumber term false).toBool
  | _ => true

/-- Whether a path leads to a field that can be searched for a term. -/
def Entity.canSearch (root : Entity) (registry : Registry) (term path : String) : Bool :=
  !isBlockedField path &&
    match root.resolve registry path with
    | .ok field => field.column.type.takes term
    | .error _ => false

/-- One of the stored texts is never refused but as a member that is stored by name, which is a
failure. -/
theorem searchValue_choice {choices : Choices} {term : String} {value? : Option Value}
    (h : searchValue (.choice choices) term = .ok value?) :
    value?.isSome = choices.texts.contains term := by
  simp only [searchValue] at h
  cases listed : choices.texts.contains term with
  | false =>
    rw [listed] at h
    cases h
    rfl
  | true =>
    simp only [listed, if_true] at h
    cases accepted : choices.accept? (.text term) with
    | some value =>
      rw [accepted] at h
      cases h
      rfl
    | none =>
      rw [accepted] at h
      cases choices with
      | labels texts =>
        have own : Choices.accept? (.labels texts) (.text term) = some (.text term) :=
          if_pos listed
        rw [own] at accepted
        cases accepted
      | members all byName =>
        cases all with
        | nil => cases listed
        | cons m all => cases h

theorem searchValue_isSome {type : ColumnType} {term : String} {value? : Option Value}
    (compared : type.kind = .choice ∨ type.kind.isNumber = true)
    (h : searchValue type term = .ok value?) : value?.isSome = type.takes term := by
  cases type with
  | choice choices => exact searchValue_choice h
  | integer =>
    simp only [searchValue] at h
    split at h <;> cases h <;> rename_i read <;> simp [ColumnType.takes, read, Except.toBool]
  | numeric places exact =>
    simp only [searchValue] at h
    split at h <;> cases h <;> rename_i read <;> simp [ColumnType.takes, read, Except.toBool]
  | _ => simp [ColumnType.kind, ColumnKind.isNumber] at compared

/-- A field that can be searched has a condition, and only such a field. -/
theorem searchField_isSome {term path : String} {number : Nat} {column : ColumnRef}
    {condition? : Option Condition} (h : searchField term path number column = .ok condition?) :
    condition?.isSome = column.column.type.takes term := by
  unfold searchField at h
  dsimp only at h
  split at h
  · rename_i compared
    simp only [bind_eq_ok_iff, pure_eq, Except.ok.injEq] at h
    obtain ⟨value?, hv, rfl⟩ := h
    rw [Option.isSome_map, searchValue_isSome compared hv]
  · rename_i compared
    cases h
    cases type : column.column.type <;> rw [type] at compared <;>
      simp [ColumnType.kind, ColumnKind.isNumber] at compared <;> rfl

/-- Texts that are listed are the paths, empty ones too. -/
theorem Value.paths_texts (fields : List String) :
    (Value.list (fields.map .text)).paths = .ok fields := by
  have each : (fields.map Value.text).mapM (fun part =>
      if part.isNothing then .ok "" else part.asText "split") = (.ok fields : Outcome _) := by
    induction fields with
    | nil => rfl
    | cons field fields ih =>
      have own : (if (Value.text field).isNothing then .ok ""
          else (Value.text field).asText "split" : Outcome String) = .ok field := by
        cases he : (Value.text field).isNothing with
        | false => rfl
        | true =>
          simp only [Value.isNothing, String.isEmpty_iff] at he
          simp [he]
      rw [List.map_cons, List.mapM_cons, own, ih]
      rfl
  exact each

/-! ## Names -/

theorem searchField_unnamed (term path : String) (number next : Nat) (column : ColumnRef) :
    (searchField term path number column).map (·.map Condition.unnamed) =
      (searchField term path next column).map (·.map Condition.unnamed) := by
  unfold searchField
  dsimp only
  split
  · cases searchValue column.column.type term with
    | error failure => rfl
    | ok value? => cases value? <;> rfl
  · rfl

/-! ## Meaning -/

section
variable (plan : JoinPlan) (joined : JoinedRow)

/-- Whether a path leads to a field that can be searched for a term and holds it. -/
def SearchHolds (term path : String) : Prop :=
  isBlockedField path = false ∧ ∃ field column condition, plan.resolve path = .ok (field, column) ∧
    searchField term path 0 column = .ok (some condition) ∧ condition.truth joined = .yes

end

section
variable {plan : JoinPlan} {joined : JoinedRow} {term path : String} {number : Nat}

theorem SearchHolds.canSearch (h : SearchHolds plan joined term path) :
    plan.root.canSearch plan.registry term path = true := by
  obtain ⟨blocked, field, column, condition, resolved, compiled, -⟩ := h
  obtain ⟨of_root, rfl⟩ := JoinPlan.resolve_eq_ok resolved
  have takes : field.column.type.takes term = true := (searchField_isSome compiled).symm
  simp [Entity.canSearch, blocked, of_root, takes]

/-- A field asks for the same wherever it stands in the list. -/
theorem searchField_yes_iff {field : Field} {column : ColumnRef} {condition? : Option Condition}
    (blocked : isBlockedField path = false) (resolved : plan.resolve path = .ok (field, column))
    (h : searchField term path number column = .ok condition?) :
    (∃ condition ∈ condition?, condition.truth joined = .yes) ↔
      SearchHolds plan joined term path := by
  have same := searchField_unnamed term path number 0 column
  rw [h, map_ok, eq_comm, map_eq_ok_iff] at same
  obtain ⟨first?, hf, he⟩ := same
  have truths : (∃ condition ∈ condition?, condition.truth joined = .yes) ↔
      ∃ condition ∈ first?, condition.truth joined = .yes := by
    have unnamed (c? : Option Condition) : (∃ condition ∈ c?, condition.truth joined = .yes) ↔
        ∃ condition ∈ c?.map Condition.unnamed, condition.truth joined = .yes := by
      cases c? <;> simp [Condition.truth_unnamed]
    rw [unnamed condition?, unnamed first?, he]
  rw [truths]
  constructor
  · rintro ⟨condition, hc, yes⟩
    exact ⟨blocked, field, column, condition, resolved, by rw [hf, hc], yes⟩
  · rintro ⟨-, field', column', condition, resolved', compiled, yes⟩
    rw [resolved] at resolved'
    cases resolved'
    rw [hf] at compiled
    cases compiled
    exact ⟨condition, rfl, yes⟩

theorem searchFields_yes_iff {paths : List String} {conditions : List Condition}
    (h : searchFields plan term number paths = .ok conditions) :
    (∃ condition ∈ conditions, condition.truth joined = .yes) ↔
      ∃ path ∈ paths, SearchHolds plan joined term path := by
  induction paths generalizing number conditions with
  | nil =>
    cases h
    simp
  | cons path paths ih =>
    simp only [List.mem_cons, exists_eq_or_imp]
    unfold searchFields at h
    split at h
    · rename_i blocked
      have passed : ¬ SearchHolds plan joined term path := fun hs => by simp [hs.1] at blocked
      rw [ih h, or_iff_right passed]
    · rename_i blocked
      split at h
      · rename_i failed
        have passed : ¬ SearchHolds plan joined term path := by
          rintro ⟨-, _, _, _, resolved, -⟩
          rw [failed] at resolved
          cases resolved
        rw [ih h, or_iff_right passed]
      · rename_i resolved
        rw [bind_eq_ok_iff] at h
        obtain ⟨condition?, hc, h⟩ := h
        rw [← searchField_yes_iff (by simpa using blocked) resolved hc]
        cases condition? with
        | none => simp [ih h]
        | some condition =>
          simp only [bind_eq_ok_iff, pure_eq, Except.ok.injEq] at h
          obtain ⟨others, ho, rfl⟩ := h
          simp [ih ho]

/-- Without a term nothing is searched for. -/
theorem compileSearch_none {search fields : Value} (hterm : searchTerm? search = none)
    {bracket : Option Condition} (h : compileSearch plan search fields = .ok bracket) :
    bracket = none := by
  unfold compileSearch at h
  rw [hterm] at h
  split at h
  · exact (Except.ok.inj h).symm
  · cases hp : fields.parts with
    | error failure => rw [hp] at h; cases h
    | ok parts => rw [hp] at h; exact (Except.ok.inj h).symm

/-- With a term the listed fields are searched for it. -/
theorem compileSearch_eq {search : Value} (hterm : searchTerm? search = some term)
    (fields : Value) :
    compileSearch plan search fields =
      fields.paths >>= fun paths => searchCondition plan term (searchPaths paths) := by
  have given : search.isNull = false := by
    cases hn : search.isNull with
    | false => rfl
    | true => simp [searchTerm?, hn] at hterm
  unfold compileSearch Value.paths
  simp only [given, hterm, Bool.false_eq_true, if_false]
  cases hp : fields.parts with
  | error failure => rfl
  | ok parts => rfl

/-- The condition of a search is met where one of the listed fields holds the term. -/
theorem compileSearch_met_iff {search fields : Value} {bracket : Option Condition}
    {paths : List String} (hterm : searchTerm? search = some term) (hp : fields.paths = .ok paths)
    (named : ∃ path ∈ paths, path ≠ "") (h : compileSearch plan search fields = .ok bracket) :
    Met joined bracket.toList ↔
      ∃ path ∈ paths, path ≠ "" ∧ SearchHolds plan joined term path := by
  have listed (path : String) : path ∈ searchPaths paths ↔ path ∈ paths ∧ path ≠ "" := by
    simp [searchPaths]
  have some_listed : (searchPaths paths).isEmpty = false := by
    obtain ⟨path, hm, ne⟩ := named
    exact List.isEmpty_eq_false_iff_exists_mem.2 ⟨path, (listed path).2 ⟨hm, ne⟩⟩
  rw [compileSearch_eq hterm, hp, ok_bind] at h
  simp only [searchCondition, some_listed, Bool.false_eq_true, if_false, bind_eq_ok_iff] at h
  obtain ⟨conditions, hc, h⟩ := h
  have holds := @searchFields_yes_iff _ joined _ _ _ _ hc
  simp only [listed, and_assoc] at holds
  rw [← holds]
  cases conditions with
  | nil =>
    cases h
    simp [Met, Condition.truth]
  | cons first rest =>
    cases h
    rw [Option.toList_some, met_singleton, Condition.truth_anyOf]

/-! ## Fields that cannot take the term -/

theorem searchField_unusable (unusable : plan.root.canSearch plan.registry term path = false)
    (blocked : isBlockedField path = false) {field : Field} {column : ColumnRef}
    (resolved : plan.resolve path = .ok (field, column)) {condition? : Option Condition}
    (h : searchField term path number column = .ok condition?) : condition? = none := by
  obtain ⟨of_root, rfl⟩ := JoinPlan.resolve_eq_ok resolved
  have refused : field.column.type.takes term = false := by
    simpa [Entity.canSearch, blocked, of_root] using unusable
  exact Option.isNone_iff_eq_none.1
    (Option.isSome_eq_false_iff.1 ((searchField_isSome h).trans refused))

/-- A field that cannot take the term adds no condition, nor does it take a number. -/
theorem searchFields_without (unusable : plan.root.canSearch plan.registry term path = false)
    {before after : List String} {conditions : List Condition}
    (h : searchFields plan term number (before ++ path :: after) = .ok conditions) :
    searchFields plan term number (before ++ after) = .ok conditions := by
  induction before generalizing number conditions with
  | nil =>
    simp only [List.nil_append, searchFields] at h ⊢
    split at h
    · exact h
    · rename_i blocked
      split at h
      · exact h
      · rename_i resolved
        obtain ⟨condition?, hc, h⟩ := bind_eq_ok_iff.1 h
        obtain rfl := searchField_unusable unusable (by simpa using blocked) resolved hc
        exact h
  | cons first before ih =>
    simp only [List.cons_append, searchFields] at h ⊢
    split at h
    · rename_i blocked
      rw [if_pos blocked]
      exact ih h
    · rename_i blocked
      rw [if_neg blocked]
      split at h
      · exact ih h
      · obtain ⟨condition?, hc, h⟩ := bind_eq_ok_iff.1 h
        rw [hc, ok_bind]
        cases condition? with
        | none => exact ih h
        | some condition =>
          obtain ⟨others, ho, h⟩ := bind_eq_ok_iff.1 h
          simp only [ih ho, ok_bind]
          exact h

theorem compileSearch_without (unusable : plan.root.canSearch plan.registry term path = false)
    {search fields larger : Value} {before after : List String} {bracket : Option Condition}
    (hterm : searchTerm? search = some term) (hp : fields.paths = .ok (before ++ after))
    (hp' : larger.paths = .ok (before ++ path :: after))
    (named : ∃ path ∈ before ++ after, path ≠ "")
    (h : compileSearch plan search larger = .ok bracket) :
    compileSearch plan search fields = .ok bracket := by
  rw [compileSearch_eq hterm, hp', ok_bind] at h
  rw [compileSearch_eq hterm, hp, ok_bind]
  have split_before : searchPaths (before ++ after) = searchPaths before ++ searchPaths after :=
    List.filter_append ..
  cases hpath : path.isEmpty with
  | true =>
    have same : searchPaths (before ++ path :: after) = searchPaths (before ++ after) := by
      simp [searchPaths, hpath]
    exact same ▸ h
  | false =>
    have more : searchPaths (before ++ path :: after) =
        searchPaths before ++ path :: searchPaths after := by
      simp [searchPaths, hpath]
    have some_listed : (searchPaths before ++ searchPaths after).isEmpty = false := by
      obtain ⟨other, hm, ne⟩ := named
      rw [← split_before]
      exact List.isEmpty_eq_false_iff_exists_mem.2
        ⟨other, List.mem_filter.2 ⟨hm, by simpa using ne⟩⟩
    have some_more : (searchPaths before ++ path :: searchPaths after).isEmpty = false := by simp
    simp only [more, searchCondition, some_more, Bool.false_eq_true, if_false] at h
    obtain ⟨conditions, hc, h⟩ := bind_eq_ok_iff.1 h
    simp only [split_before, searchCondition, some_listed, Bool.false_eq_true, if_false,
      searchFields_without unusable hc, ok_bind]
    exact h

end

end RecordListing
