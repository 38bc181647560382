import RecordListing.Proofs.Query.SearchMeaning
import RecordListing.Proofs.Store.Loading
import RecordListing.Proofs.Store.OtherPlans

/-!
# A search finds what each of its fields finds

A search of more fields finds the rows that searches of some of them find (`matching_searching`),
although the fields are joined beside each other. A field that cannot be searched for the term
changes nothing, and where no field can be searched nothing is found.
-/

set_option autoImplicit false

namespace RecordListing

open JoinPlan Outcome

/-- The request with these fields to search. -/
def Request.searching (request : Request) (fields : List String) : Request :=
  { request with searchFields := .list (fields.map .text) }

theorem Request.searching_paths (request : Request) (fields : List String) :
    (request.searching fields).searchFields.paths = .ok fields :=
  Value.paths_texts fields

section
variable {request : Request} {term : String} {terms : List FilterTerm}
    {groups : List (List FilterTerm)} {plan : JoinPlan} {fields : List String}
    {conditions : List Condition}

/-- The conditions of a search are those of all else and that one of the fields holds the term. -/
theorem met_searching (hterm : searchTerm? request.search = some term)
    (named : ∃ path ∈ fields, path ≠ "")
    (h : compileConditions plan (request.searching fields) terms groups = .ok conditions) :
    ∃ rest, compileConditions plan (request.searching []) terms groups = .ok rest ∧
      ∀ joined, Met joined conditions ↔
        Met joined rest ∧ ∃ path ∈ fields, path ≠ "" ∧ SearchHolds plan joined term path := by
  obtain ⟨filters, bracket, search, extra, hf, hb, hs, he, rfl⟩ := compileConditions_eq_ok_iff.1 h
  have nothing :
      compileSearch plan request.search (request.searching []).searchFields = .ok none := by
    rw [compileSearch_eq hterm, request.searching_paths, ok_bind]
    rfl
  refine ⟨_, compileConditions_eq_ok_iff.2
    ⟨filters, bracket, none, extra, hf, hb, nothing, he, rfl⟩, fun joined => ?_⟩
  have found := @compileSearch_met_iff _ joined _ _ _ _ _ hterm (request.searching_paths fields)
    named hs
  simp only [Option.toList_none, List.append_nil, met_append, found]
  constructor
  · rintro ⟨⟨⟨others, holds⟩, extra⟩, hidden⟩
    exact ⟨⟨⟨others, extra⟩, hidden⟩, holds⟩
  · rintro ⟨⟨⟨others, extra⟩, hidden⟩, holds⟩
    exact ⟨⟨⟨others, holds⟩, extra⟩, hidden⟩

end

/-! ## Listings -/

/-- Whether some assignment along the joins of a plan meets conditions and has the term in one of
the fields. -/
def JoinPlan.Finds (plan : JoinPlan) (db : Database) (row : Row) (rest : List Condition)
    (term : String) (fields : List String) : Prop :=
  ∃ a : Assignment, (∀ step ∈ plan.steps, a.Follows db row step) ∧
    Met (a.joined row plan.steps) rest ∧
      ∃ path ∈ fields, path ≠ "" ∧ SearchHolds plan (a.joined row plan.steps) term path

section
variable {plan : JoinPlan} {db : Database} {row : Row} {rest : List Condition} {term : String}
    {fields others : List String}

theorem JoinPlan.finds_append :
    plan.Finds db row rest term (fields ++ others) ↔
      plan.Finds db row rest term fields ∨ plan.Finds db row rest term others := by
  constructor
  · rintro ⟨a, follows, met, path, hm, holds⟩
    exact (List.mem_append.1 hm).imp (fun hm => ⟨a, follows, met, path, hm, holds⟩)
      fun hm => ⟨a, follows, met, path, hm, holds⟩
  · rintro (⟨a, follows, met, path, hm, holds⟩ | ⟨a, follows, met, path, hm, holds⟩)
    · exact ⟨a, follows, met, path, List.mem_append_left _ hm, holds⟩
    · exact ⟨a, follows, met, path, List.mem_append_right _ hm, holds⟩

theorem JoinPlan.Finds.mono (h : plan.Finds db row rest term fields)
    (listed : ∀ path ∈ fields, path ∈ others) : plan.Finds db row rest term others := by
  obtain ⟨a, follows, met, path, hm, holds⟩ := h
  exact ⟨a, follows, met, path, listed path hm, holds⟩

theorem JoinPlan.Finds.canSearch (h : plan.Finds db row rest term fields) :
    ∃ path ∈ fields, plan.root.canSearch plan.registry term path = true := by
  obtain ⟨a, -, -, path, hm, -, holds⟩ := h
  exact ⟨path, hm, holds.canSearch⟩

end

section
variable {defaults : Defaults} {registry : Registry} {entity : String} {request : Request}
    {term : String}

/-- A row matches a search if the term is found in one of its fields along the plan of any search
that lists these fields too. -/
theorem matches_searching_iff {fields others : List String} {listing other : Listing}
    {terms : List FilterTerm} {groups : List (List FilterTerm)}
    (hterm : searchTerm? request.search = some term)
    (ht : requestTerms defaults request = .ok (terms, groups))
    (named : ∃ path ∈ fields, path ≠ "") (listed : ∀ path ∈ fields, path ∈ others)
    (compiled : compileListing defaults registry entity (request.searching fields) = .ok listing)
    (compiled' : compileListing defaults registry entity (request.searching others) = .ok other) :
    listing.plan.root = other.plan.root ∧ ∃ rest,
      compileConditions other.plan (request.searching []) terms groups = .ok rest ∧
        ∀ db row, listing.Matches db row ↔ other.plan.Finds db row rest term fields := by
  obtain ⟨root, terms₁, groups₁, hget, -, ht₁, hp, hc, -⟩ := compileListing_eq_ok compiled
  obtain ⟨root', terms₂, groups₂, hget', -, ht₂, hp', hc', -⟩ := compileListing_eq_ok compiled'
  cases hget.symm.trans hget'
  cases ht.symm.trans ht₁
  cases ht.symm.trans ht₂
  have roots := planRequest_root hp'
  have larger := planRequest_coversAll hp'
  have covers : other.plan.CoversAll (request.searching fields) terms groups := by
    refine ⟨larger.fields, fun term paths hterm hpaths path hm => ?_⟩
    rw [request.searching_paths fields] at hpaths
    cases hpaths
    exact larger.search term others hterm (request.searching_paths others) path (listed path hm)
  obtain ⟨rest, hr, met⟩ := met_searching hterm named
    (compileConditions_other hp hc roots covers)
  refine ⟨(planRequest_root hp).2.1.trans roots.2.1.symm, rest, hr, fun db row => ?_⟩
  simp only [matches_iff_admits hp hc roots covers, Admits, Finds, met]

/-- A search of more fields finds no fewer rows. -/
theorem matching_more_fields {fields others : List String} {listing other : Listing}
    (hterm : searchTerm? request.search = some term) (named : ∃ path ∈ fields, path ≠ "")
    (listed : ∀ path ∈ fields, path ∈ others)
    (compiled : compileListing defaults registry entity (request.searching fields) = .ok listing)
    (compiled' : compileListing defaults registry entity (request.searching others) = .ok other)
    {db : Database} {row : Row} (h : row ∈ listing.matching db) : row ∈ other.matching db := by
  obtain ⟨-, terms, groups, -, -, ht, -⟩ := compileListing_eq_ok compiled
  have named' : ∃ path ∈ others, path ≠ "" := named.imp fun path h => ⟨listed path h.1, h.2⟩
  obtain ⟨root, rest, hr, matches_iff⟩ :=
    matches_searching_iff hterm ht named listed compiled compiled'
  obtain ⟨-, rest', hr', matches_iff'⟩ :=
    matches_searching_iff hterm ht named' (fun _ h => h) compiled' compiled'
  cases hr.symm.trans hr'
  rw [Listing.mem_matching_iff (compileListing_planned compiled), root, matches_iff] at h
  rw [Listing.mem_matching_iff (compileListing_planned compiled'), matches_iff']
  exact ⟨h.1, h.2.mono listed⟩

/-- A search of two lists of fields finds what a search of the one or of the other finds. -/
theorem mem_matching_append {left right : List String} {first second both : Listing}
    (hterm : searchTerm? request.search = some term)
    (named : ∃ path ∈ left, path ≠ "") (named' : ∃ path ∈ right, path ≠ "")
    (compiled : compileListing defaults registry entity (request.searching left) = .ok first)
    (compiled' : compileListing defaults registry entity (request.searching right) = .ok second)
    (compiled_both :
      compileListing defaults registry entity (request.searching (left ++ right)) = .ok both)
    {db : Database} {row : Row} :
    row ∈ both.matching db ↔ row ∈ first.matching db ∨ row ∈ second.matching db := by
  obtain ⟨-, terms, groups, -, -, ht, -⟩ := compileListing_eq_ok compiled
  obtain ⟨root, rest, hr, matches_iff⟩ := matches_searching_iff hterm ht named
    (fun _ h => List.mem_append_left _ h) compiled compiled_both
  obtain ⟨root', rest', hr', matches_iff'⟩ := matches_searching_iff hterm ht named'
    (fun _ h => List.mem_append_right _ h) compiled' compiled_both
  obtain ⟨-, all, ha, matches_all⟩ := matches_searching_iff hterm ht
    (named.imp fun path h => ⟨List.mem_append_left _ h.1, h.2⟩) (fun _ h => h) compiled_both
    compiled_both
  cases hr.symm.trans ha
  cases hr'.symm.trans ha
  rw [Listing.mem_matching_iff (compileListing_planned compiled), root, matches_iff,
    Listing.mem_matching_iff (compileListing_planned compiled'), root', matches_iff',
    Listing.mem_matching_iff (compileListing_planned compiled_both), matches_all, finds_append,
    and_or_left]

/-- A search finds nothing if none of its fields can be searched for the term. -/
theorem matching_unusable {fields : List String} {listing : Listing}
    (hterm : searchTerm? request.search = some term) (named : ∃ path ∈ fields, path ≠ "")
    (compiled : compileListing defaults registry entity (request.searching fields) = .ok listing)
    (unusable : ∀ path ∈ fields, listing.plan.root.canSearch registry term path = false)
    (db : Database) : listing.matching db = [] := by
  obtain ⟨root, terms, groups, -, -, ht, hp, -⟩ := compileListing_eq_ok compiled
  obtain ⟨-, rest, -, matches_iff⟩ := matches_searching_iff hterm ht named (fun _ h => h) compiled
    compiled
  refine List.eq_nil_iff_forall_not_mem.2 fun row hm => ?_
  rw [Listing.mem_matching_iff (compileListing_planned compiled), matches_iff] at hm
  obtain ⟨path, hpath, can⟩ := hm.2.canSearch
  rw [(planRequest_root hp).1, unusable path hpath] at can
  cases can

/-- A field that cannot be searched for the term changes nothing, wherever it is listed. -/
theorem answersLike_unusable {before after : List String} {path : String} {listing other : Listing}
    (hterm : searchTerm? request.search = some term)
    (named : ∃ path ∈ before ++ after, path ≠ "")
    (compiled :
      compileListing defaults registry entity (request.searching (before ++ after)) = .ok listing)
    (compiled' : compileListing defaults registry entity
      (request.searching (before ++ path :: after)) = .ok other)
    (unusable : listing.plan.root.canSearch registry term path = false) (db : Database) :
    listing.AnswersLike other db := by
  obtain ⟨root, terms, groups, hget, -, ht, hp, hc, -⟩ := compileListing_eq_ok compiled
  obtain ⟨root', terms', groups', hget', -, ht', hp', hc', -⟩ := compileListing_eq_ok compiled'
  cases hget.symm.trans hget'
  cases (show requestTerms defaults (request.searching (before ++ path :: after)) = _ from
    ht).symm.trans ht'
  have roots := planRequest_root hp'
  have larger := planRequest_coversAll hp'
  have covers : other.plan.CoversAll (request.searching (before ++ after)) terms groups := by
    refine ⟨larger.fields, fun term paths hterm hpaths path hm => ?_⟩
    rw [request.searching_paths] at hpaths
    cases hpaths
    refine larger.search term _ hterm (request.searching_paths _) path ?_
    exact List.mem_append.2 ((List.mem_append.1 hm).imp_right (List.mem_cons_of_mem _))
  rw [(planRequest_root hp).2.1, ← roots.1, ← roots.2.1] at unusable
  -- along the larger plan, both requests have the same conditions
  have fewer := compileConditions_other hp hc roots covers
  obtain ⟨filters, bracket, search, extra, hf, hb, hs, he, more⟩ :=
    compileConditions_eq_ok_iff.1 hc'
  have hs := compileSearch_without unusable hterm (request.searching_paths (before ++ after))
    (request.searching_paths (before ++ path :: after)) named hs
  have same : listing.conditions = other.conditions := by
    have without : compileConditions other.plan (request.searching (before ++ after)) terms groups =
        .ok other.conditions :=
      compileConditions_eq_ok_iff.2 ⟨filters, bracket, search, extra, hf, hb, hs, he, more⟩
    exact Except.ok.inj (fewer.symm.trans without)
  have pages : (request.searching (before ++ after)).PagesLike
      (request.searching (before ++ path :: after)) := ⟨rfl, rfl, rfl, rfl⟩
  exact answersLike_of_unnamed pages compiled compiled' (congrArg _ same) db

/-- A search of two lists of fields finds the rows that searches of the one and of the other find.
It finds nothing if none of its fields can be searched for the term; one more such field changes
nothing, and more fields find no fewer rows. -/
theorem matching_searching {left right : List String} {first second both : Listing}
    (hterm : searchTerm? request.search = some term)
    (named : ∃ path ∈ left, path ≠ "") (named' : ∃ path ∈ right, path ≠ "")
    (compiled : compileListing defaults registry entity (request.searching left) = .ok first)
    (compiled' : compileListing defaults registry entity (request.searching right) = .ok second)
    (compiled_both :
      compileListing defaults registry entity (request.searching (left ++ right)) = .ok both)
    (db : Database) :
    let root := both.plan.root
    first.plan.root = root ∧ second.plan.root = root ∧
      (∀ row, row ∈ both.matching db ↔ row ∈ first.matching db ∨ row ∈ second.matching db) ∧
      ((∀ path ∈ left, root.canSearch registry term path = false) → first.matching db = []) ∧
      (∀ before after path listing, left = before ++ after →
        compileListing defaults registry entity (request.searching (before ++ path :: after)) =
          .ok listing →
        root.canSearch registry term path = false → first.AnswersLike listing db) ∧
      ∀ fields listing, (∀ path ∈ left, path ∈ fields) →
        compileListing defaults registry entity (request.searching fields) = .ok listing →
        ∀ row ∈ first.matching db, row ∈ listing.matching db := by
  obtain ⟨root, terms, groups, hget, -, -, hp, -⟩ := compileListing_eq_ok compiled
  obtain ⟨root', terms', groups', hget', -, -, hp', -⟩ := compileListing_eq_ok compiled'
  obtain ⟨root'', terms'', groups'', hget'', -, -, hp'', -⟩ := compileListing_eq_ok compiled_both
  cases hget.symm.trans hget'
  cases hget.symm.trans hget''
  have same_root : first.plan.root = both.plan.root :=
    (planRequest_root hp).2.1.trans (planRequest_root hp'').2.1.symm
  have same_root' : second.plan.root = both.plan.root :=
    (planRequest_root hp').2.1.trans (planRequest_root hp'').2.1.symm
  dsimp only
  rw [← same_root]
  refine ⟨rfl, same_root'.trans same_root.symm,
    fun row => mem_matching_append hterm named named' compiled compiled' compiled_both,
    fun unusable => matching_unusable hterm named compiled unusable db, ?_, ?_⟩
  · rintro before after path listing rfl compiled_more unusable
    exact answersLike_unusable hterm named compiled compiled_more unusable db
  · intro fields listing listed compiled_more row
    exact matching_more_fields hterm named listed compiled compiled_more

end

/-- One pair has a widget of this serial number, the two others a widget with such a part. -/
theorem matching_searching_serial :
    let request : Request := { search := .text " 7 " }
    let left := ["widget.serial"]
    let right := ["nowhere.name", "widget.children.serial", ""]
    ∃ first second both,
      compileListing {} Sample.registry "pairing" (request.searching left) = .ok first ∧
      compileListing {} Sample.registry "pairing" (request.searching right) = .ok second ∧
      compileListing {} Sample.registry "pairing" (request.searching (left ++ right)) = .ok both ∧
      (first.matching Sample.workshop).length = 1 ∧ (second.matching Sample.workshop).length = 2 ∧
      ∀ row, row ∈ both.matching Sample.workshop ↔
        row ∈ first.matching Sample.workshop ∨ row ∈ second.matching Sample.workshop := by
  intro request left right
  obtain ⟨first, compiled, one⟩ := @exists_ok_of_any _ _
    (compileListing {} Sample.registry "pairing" (request.searching left))
    (fun listing => (listing.matching Sample.workshop).length == 1) (by decide +kernel)
  obtain ⟨second, compiled', two⟩ := @exists_ok_of_any _ _
    (compileListing {} Sample.registry "pairing" (request.searching right))
    (fun listing => (listing.matching Sample.workshop).length == 2) (by decide +kernel)
  obtain ⟨both, compiled_both, -⟩ := @exists_ok_of_any _ _
    (compileListing {} Sample.registry "pairing" (request.searching (left ++ right)))
    (fun _ => true) (by decide +kernel)
  have term : searchTerm? request.search = some "7" := by decide +kernel
  have union := matching_searching term ⟨"widget.serial", by decide⟩ ⟨"nowhere.name", by decide⟩
    compiled compiled' compiled_both Sample.workshop
  exact ⟨first, second, both, compiled, compiled', compiled_both, eq_of_beq one, eq_of_beq two,
    union.2.2.1⟩

end RecordListing
