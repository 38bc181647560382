import RecordListing.Proofs.Query.Coverage
import RecordListing.Proofs.Query.ParameterNames
import RecordListing.Schema.Retail
import RecordListing.Schema.Sample

/-!
# No two parameters share a name

The values that columns of the root must have are bound under the names of these columns, numbered
for each of them (`compileExtra_names`). What stands before the first digit of a name tells the
stage of compiling that it comes from (`nameFront`), so that all parameters of the statement that
selects the rows have names of their own (`dataParams_nodup`).
-/

set_option autoImplicit false

namespace RecordListing

open Text Outcome

/-! ## Fronts of names -/

/-- What stands before the first digit of a name. -/
def nameFront (name : String) : List Char := name.toList.takeWhile fun c => !c.isDigit

/-- Digits and what follows them are no part of the front. -/
theorem takeWhile_repr (n : Nat) (rest : List Char) :
    ((Nat.repr n).toList ++ rest).takeWhile (fun c => !c.isDigit) = [] := by
  cases h : (Nat.repr n).toList with
  | nil => simp at h
  | cons c cs =>
    have digit : c.isDigit = true := isDigit_of_mem_repr (h ▸ List.mem_cons_self)
    simp [digit]

theorem Numbered.nameFront_eq {front name : String} {number : Nat} (h : Numbered front number name)
    (plain : (front.toList.all fun c => !c.isDigit) = true) : nameFront name = front.toList := by
  obtain ⟨rest, -, rfl⟩ := h
  simp only [nameFront, String.toList_append, List.append_assoc,
    List.takeWhile_append_of_pos (List.all_eq_true.1 plain), takeWhile_repr, List.append_nil]

/-- The fronts of the names that filters, groups, search and window take. -/
def takenFronts : List (List Char) :=
  ["p".toList, "or".toList, "search_p".toList, "param_".toList]

/-- Whether the names that are made of a column's name keep apart from all others. -/
def Column.KeepsApart (column : Column) : Prop :=
  nameFront (column.physical ++ "_") ∉ takenFronts

instance (column : Column) : Decidable column.KeepsApart :=
  inferInstanceAs (Decidable (_ ∉ _))

theorem nameFront_extraName (column : Column) (number : Nat) :
    nameFront (extraName column number) = nameFront (column.physical ++ "_") := by
  have digits := takeWhile_repr number []
  rw [List.append_nil] at digits
  simp only [nameFront, extraName, String.toList_append (s := column.physical ++ "_"),
    List.takeWhile_append, digits, List.append_nil]
  split
  · rename_i all
    exact ((List.takeWhile_prefix _).eq_of_length all).symm
  · rfl

/-! ## Conditions of the root -/

theorem extraName_injective {a b : Column} {m n : Nat} (h : extraName a m = extraName b n) :
    a.physical = b.physical ∧ m = n := by
  have chars := congrArg String.toList h
  simp only [extraName, String.toList_append] at chars
  -- the number is what stands behind the last underscore
  have back := congrArg List.reverse chars
  simp only [List.reverse_append, List.append_assoc, show "_".toList.reverse = ['_'] from rfl,
    List.singleton_append] at back
  have cut := congrArg (cutAt '_') back
  have digits (k : Nat) : '_' ∉ (Nat.repr k).toList.reverse := by
    simp
  rw [cutAt_append (digits m), cutAt_append (digits n)] at cut
  have numbers : m = n :=
    repr_injective (String.toList_inj.1 (List.reverse_injective (List.cons.inj cut).1))
  subst numbers
  exact ⟨by simpa [extraName] using h, rfl⟩

theorem conditionNames_extra (column : Column) (number : Nat) (value : Value) :
    conditionNames [extraCondition column number value] =
      if takesName value then [extraName column number] else [] := by
  cases value <;> rfl

/-- The parameters of such conditions have names of their own, with numbers beyond those that are
used for the same column. -/
theorem compileExtra_names (root : Entity) (asked : List (String × Value)) (used : List String) :
    Yields (fun conditions => (conditionNames conditions).Nodup ∧
        ∀ name ∈ conditionNames conditions, ∃ column number, name = extraName column number ∧
          used.count column.physical < number ∧ column ∈ root.columns ∧
            ∃ extra ∈ asked, column.property = extra.1)
      (compileExtra root used asked) := by
  induction asked generalizing used with
  | nil => exact ⟨List.nodup_nil, fun _ h => nomatch h⟩
  | cons first asked ih =>
    obtain ⟨property, value⟩ := first
    unfold compileExtra
    split
    · trivial
    · rename_i column found
      refine (ih _).bind fun others _ ⟨nodup, names⟩ => ?_
      show _ ∧ _
      rw [conditionNames_cons, conditionNames_extra]
      have here : column ∈ root.columns ∧ column.property = property :=
        ⟨List.mem_of_find?_eq_some found, by simpa using List.find?_some found⟩
      split
      · rename_i takes
        simp only [takes, if_true] at names
        refine ⟨List.nodup_cons.2 ⟨fun hm => ?_, nodup⟩, ?_⟩
        · obtain ⟨other, number, same, beyond, -⟩ := names _ hm
          obtain ⟨physical, rfl⟩ := extraName_injective same
          rw [← physical, List.count_cons_self] at beyond
          exact absurd beyond (Nat.lt_irrefl _)
        · intro name hn
          rcases List.mem_cons.1 hn with rfl | hn
          · exact ⟨column, _, rfl, Nat.lt_succ_self _, here.1, _, List.mem_cons_self, here.2⟩
          · obtain ⟨other, number, rfl, beyond, own, extra, he, property⟩ := names name hn
            refine ⟨other, number, rfl, ?_, own, extra, List.mem_cons_of_mem _ he, property⟩
            exact Nat.lt_of_le_of_lt List.count_le_count_cons beyond
      · rename_i takes
        simp only [takes] at names
        refine ⟨nodup, fun name hn => ?_⟩
        obtain ⟨other, number, rfl, beyond, own, extra, he, property⟩ := names name hn
        exact ⟨other, number, rfl, beyond, own, extra, List.mem_cons_of_mem _ he, property⟩

/-! ## Names of a statement -/

/-- Names of different fronts differ. -/
theorem nodup_append_of_fronts {names others : List String} (h : names.Nodup) (h' : others.Nodup)
    {front : List Char} (fronts : ∀ name ∈ names, nameFront name = front)
    (others_fronts : ∀ name ∈ others, nameFront name ≠ front) : (names ++ others).Nodup := by
  refine List.nodup_append.2 ⟨h, h', ?_⟩
  rintro name hn other ho rfl
  exact others_fronts name ho (fronts name hn)

theorem NumberedFrom.nameFront_eq {front : String} {first next : Nat} {names : List String}
    (h : NumberedFrom front first next names)
    (plain : (front.toList.all fun c => !c.isDigit) = true) :
    ∀ name ∈ names, nameFront name = front.toList := by
  intro name hn
  obtain ⟨number, -, -, numbered⟩ := h.numbered name hn
  exact numbered.nameFront_eq plain

theorem NumberedFrom.isBindText {front : String} {first next : Nat} {names : List String}
    (h : NumberedFrom front first next names) (hf : isBindText front = true) :
    ∀ name ∈ names, RecordListing.isBindText name = true := by
  intro name hn
  obtain ⟨number, -, -, numbered⟩ := h.numbered name hn
  exact numbered.isBindText hf

theorem conditionNames_notDeleted (root : Entity) : conditionNames (notDeleted root) = [] := by
  unfold notDeleted
  split <;> rfl

/-- The names of the window. -/
def windowNames : List String := ["param_1", "param_2"]

theorem dataNames_eq (listing : Listing) :
    (Sql.dataParams listing).map (·.1) =
      (if Sql.isHopeless listing.conditions then [] else conditionNames listing.conditions) ++
        windowNames := by
  unfold Sql.dataParams Sql.whereParams
  split <;> simp [conditionNames, windowNames]

/-- What the names of the values of a request's conditions are. -/
theorem compileConditions_names {plan : JoinPlan} {request : Request} {terms : List FilterTerm}
    {groups : List (List FilterTerm)} {conditions : List Condition}
    (h : compileConditions plan request terms groups = .ok conditions) :
    ∃ filters bracket search extra next last,
      conditionNames conditions = filters ++ (bracket ++ (search ++ extra)) ∧
        NumberedFrom "p" 0 next filters ∧ NumberedFrom "or" 0 groups.length bracket ∧
        NumberedFrom "search_p" 0 last search ∧ extra.Nodup ∧
        ∀ name ∈ extra, ∃ column ∈ plan.root.columns, ∃ number, name = extraName column number ∧
          ∃ asked ∈ request.extraConditions, column.property = asked.1 := by
  obtain ⟨filters, bracket, search, extra, hf, hb, hs, he, rfl⟩ :=
    compileConditions_eq_ok_iff.1 h
  obtain ⟨next, filter_names⟩ := (compileFilters_names "" plan terms).ok hf
  obtain ⟨last, search_names⟩ := (compileSearch_names plan _ _).ok hs
  obtain ⟨nodup, extra_names⟩ := (compileExtra_names plan.root _ []).ok he
  refine ⟨conditionNames filters, conditionNames bracket.toList, conditionNames search.toList,
    conditionNames extra, next, last, ?_, filter_names, (compileOrFilters_names plan groups).ok hb,
    search_names, nodup, fun name hn => ?_⟩
  · have hidden :
        conditionNames (if request.withDeleted then [] else notDeleted plan.root) = [] := by
      split
      · rfl
      · exact conditionNames_notDeleted plan.root
    simp only [conditionNames_append, hidden, List.append_nil, List.append_assoc]
  · obtain ⟨column, number, same, -, own, asked⟩ := extra_names name hn
    exact ⟨column, own, number, same, asked⟩

/-! ## Characters -/

/-- Whether a namespace is that of filters, of a group or of the search. -/
def IsSpace (space : String) : Prop :=
  space = "" ∨ (∃ index, space = groupSpace index) ∨ space = searchSpace

/-- What the names of the values of ranges, of lists and of single values end in. -/
def nameSuffixes : List String := ["", "_from", "_to", "_start", "_end"]

theorem bindName_isBindText {space suffix : String} (hs : IsSpace space)
    (hm : suffix ∈ nameSuffixes) (number : Nat) (path : String) :
    isBindText (bindName space number path suffix) = true := by
  have suffixes : ∀ suffix ∈ nameSuffixes, isBindText suffix = true := by decide
  have spaces : isBindText space = true := by
    rcases hs with rfl | ⟨index, rfl⟩ | rfl
    · rfl
    · simp [groupSpace, show isBindText "or" = true ∧ isBindText "_" = true by decide]
    · decide
  rw [isBindText_bindName, spaces, suffixes suffix hm]
  rfl

/-! ## Schemas -/

theorem mem_entities_of_get {registry : Registry} {name : String} {entity : Entity}
    (h : registry.get name = .ok entity) : entity ∈ registry.entities :=
  List.mem_of_find?_eq_some (Registry.get_eq_ok_iff.1 h)

/-- The names of the columns of the two schemas keep apart. -/
theorem keepsApart_of_schema : ∀ registry ∈ [Retail.registry, Sample.registry],
    ∀ entity ∈ registry.entities, ∀ column ∈ entity.columns, column.KeepsApart := by
  decide +kernel

/-! ## All parameters -/

/-- Each stage has a front of its own, from which the names of all later ones keep apart. -/
theorem stages_nodup {filters bracket search extra : List String} {next last length : Nat}
    (in_filters : NumberedFrom "p" 0 next filters)
    (in_bracket : NumberedFrom "or" 0 length bracket)
    (in_search : NumberedFrom "search_p" 0 last search) (extra_nodup : extra.Nodup)
    (of_extra : ∀ name ∈ extra, nameFront name ∉ takenFronts) :
    (filters ++ (bracket ++ (search ++ (extra ++ windowNames)))).Nodup := by
  have of_filters := in_filters.nameFront_eq (by decide)
  have of_bracket := in_bracket.nameFront_eq (by decide)
  have of_search := in_search.nameFront_eq (by decide)
  have of_window : ∀ name ∈ windowNames, nameFront name = "param_".toList := by decide
  have differs {front : List Char} (hm : front ∈ takenFronts) :
      ∀ name ∈ extra, nameFront name ≠ front := fun name hn he => of_extra name hn (he ▸ hm)
  have after_extra : (extra ++ windowNames).Nodup := List.nodup_append_comm.1
    (nodup_append_of_fronts (by decide) extra_nodup of_window (differs (by decide)))
  have after_search : (search ++ (extra ++ windowNames)).Nodup := by
    refine nodup_append_of_fronts in_search.nodup after_extra of_search ?_
    simp only [List.forall_mem_append]
    exact ⟨differs (by decide), by decide⟩
  have after_bracket : (bracket ++ (search ++ (extra ++ windowNames))).Nodup := by
    refine nodup_append_of_fronts in_bracket.nodup after_search of_bracket ?_
    simp only [List.forall_mem_append]
    exact ⟨fun name hn => of_search name hn ▸ by decide, differs (by decide), by decide⟩
  refine nodup_append_of_fronts in_filters.nodup after_bracket of_filters ?_
  simp only [List.forall_mem_append]
  exact ⟨fun name hn => of_bracket name hn ▸ by decide,
    fun name hn => of_search name hn ▸ by decide, differs (by decide), by decide⟩

/-- What the names of the conditions of a request are made of. -/
theorem conditionNames_text {plan : JoinPlan} {request : Request} {terms : List FilterTerm}
    {groups : List (List FilterTerm)} {conditions : List Condition}
    (h : compileConditions plan request terms groups = .ok conditions) :
    ∀ name ∈ conditionNames conditions, isBindText name = true ∨
      ∃ column ∈ plan.root.columns, ∃ number, name = extraName column number := by
  obtain ⟨filters, bracket, search, extra, next, last, names, in_filters, in_bracket, in_search,
    -, of_column⟩ := compileConditions_names h
  rw [names]
  simp only [List.forall_mem_append]
  refine ⟨fun name hn => .inl (in_filters.isBindText (by decide) name hn),
    fun name hn => .inl (in_bracket.isBindText (by decide) name hn),
    fun name hn => .inl (in_search.isBindText (by decide) name hn), fun name hn => .inr ?_⟩
  obtain ⟨column, own, number, same, -⟩ := of_column name hn
  exact ⟨column, own, number, same⟩

/-- All parameters of the statement that selects the rows have names of their own. The names are
made of letters and digits of ASCII and underscores, but for those that are made of the name of a
column of the root, which in another schema may be any. -/
theorem dataParams_nodup {defaults : Defaults} {registry : Registry} {entity : String}
    {request : Request} {listing : Listing}
    (compiled : compileListing defaults registry entity request = .ok listing)
    (apart : registry ∈ [Retail.registry, Sample.registry] ∨
      ∀ asked ∈ request.extraConditions, ∀ column ∈ listing.plan.root.columns,
        column.property = asked.1 → column.KeepsApart) :
    let names := (Sql.dataParams listing).map (·.1)
    names.Nodup ∧
      (∀ name ∈ names, isBindText name = true ∨
        ∃ column ∈ listing.plan.root.columns, ∃ number, name = extraName column number) ∧
      ∀ space suffix, IsSpace space → suffix ∈ nameSuffixes → ∀ number path,
        isBindText (bindName space number path suffix) = true := by
  obtain ⟨root, terms, groups, hget, -, -, hp, hc, -⟩ := compileListing_eq_ok compiled
  have hroot := (planRequest_root hp).2.1
  have kept : ∀ asked ∈ request.extraConditions, ∀ column ∈ listing.plan.root.columns,
      column.property = asked.1 → column.KeepsApart := by
    rcases apart with schema | apart
    · intro _ _ column own _
      exact keepsApart_of_schema registry schema root (mem_entities_of_get hget) column
        (hroot ▸ own)
    · exact apart
  simp only [dataNames_eq]
  refine ⟨?_, ?_, fun space suffix hs hm => bindName_isBindText hs hm⟩
  · split
    · decide
    · obtain ⟨filters, bracket, search, extra, next, last, names, in_filters, in_bracket, in_search,
        extra_nodup, of_column⟩ := compileConditions_names hc
      have of_extra : ∀ name ∈ extra, nameFront name ∉ takenFronts := by
        intro name hn
        obtain ⟨column, own, number, rfl, asked, ha, property⟩ := of_column name hn
        exact nameFront_extraName column number ▸ kept asked ha column own property
      rw [names]
      simp only [List.append_assoc]
      exact stages_nodup in_filters in_bracket in_search extra_nodup of_extra
  · have plain : ∀ name ∈ windowNames, isBindText name = true := by decide
    refine List.forall_mem_append.2 ⟨?_, fun name hn => .inl (plain name hn)⟩
    split
    · exact fun _ h => nomatch h
    · exact conditionNames_text hc

namespace Sample

/-- Widgets by a list, a range, a whole day, two groups, a search of two fields and two conditions
of one column. -/
def namedRequest : Request where
  search := .text "7"
  searchFields := .list [.text "name", .text "parent.serial"]
  filters := .map [("grade", .list [.text "a", .text "b"]), ("serial.gte", .int 1),
    ("serial.lte", .int 9), ("stamped", .text "2024-01-15")]
  orFilters := .list [.map [("children.name.like", .text "x")],
    .map [("parent.name", .text "y"), ("weight.gt", .int 2)]]
  extraConditions := [("serial", .int 7), ("serial", .int 8)]

/-- The names of its parameters, in order. -/
def namedParams : List String := [
  "p0_grade_1", "p0_grade_2", "p1_serial_from", "p2_serial_to", "p3_stamped_start",
  "p4_stamped_end", "or0_p0_children_name", "or1_p0_parent_name", "or1_p1_weight",
  "search_p0_name", "search_p1_parent_serial", "serial_no_1", "serial_no_2", "param_1", "param_2"]

end Sample

theorem dataParams_nodup_widget : ∃ listing,
    compileListing {} Sample.registry "widget" Sample.namedRequest = .ok listing ∧
      (Sql.dataParams listing).map (·.1) = Sample.namedParams ∧ Sample.namedParams.Nodup ∧
      ∀ name ∈ Sample.namedParams, isBindText name = true ∨
        ∃ column ∈ listing.plan.root.columns, ∃ number, name = extraName column number := by
  obtain ⟨listing, compiled, named⟩ := @exists_ok_of_any _ _
    (compileListing {} Sample.registry "widget" Sample.namedRequest)
    (fun listing => (Sql.dataParams listing).map (·.1) == Sample.namedParams) (by decide +kernel)
  obtain ⟨nodup, plain, -⟩ := dataParams_nodup compiled (.inl (by simp))
  rw [eq_of_beq named] at nodup plain
  exact ⟨listing, compiled, eq_of_beq named, nodup, plain⟩

end RecordListing
