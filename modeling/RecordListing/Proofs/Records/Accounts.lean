import RecordListing.Records.Listed
import RecordListing.Proofs.Records.Calls

/-!
# Accounts of listings

A call for a listing fails before its first statement or runs one or two of them, and what it comes
to is what its caller gets (`callListing_holds`). Each call for an entity that there is counts once,
as a success or as an error (`value_metricsAfter`). So after a run of calls the counters hold how
many of them succeeded and failed (`listings_accounted`).
-/

set_option autoImplicit false

namespace RecordListing

open Outcome

/-! ## Counters -/

namespace Metrics

theorem value_cons (known other : Series) (held : Int) (metrics : Metrics) :
    value ((known, held) :: metrics) other =
      if other = known then held else metrics.value other := by
  rw [value, lookup_cons_eq_ite]
  split <;> rfl

theorem value_add (series other : Series) (amount : Int) (metrics : Metrics) :
    (metrics.add series amount).value other =
      metrics.value other + if other = series then amount else 0 := by
  induction metrics with
  | nil =>
    have fresh : value [] other = 0 := rfl
    rw [add, value_cons, fresh, zero_add]
  | cons entry metrics ih =>
    obtain ⟨known, held⟩ := entry
    rw [add]
    by_cases first : known = series
    · rw [if_pos first, value_cons, value_cons, first]
      by_cases same : other = series <;> simp [same]
    · rw [if_neg first, value_cons, value_cons, ih]
      by_cases here : other = known
      · simp [here, first]
      · simp [here]

theorem listingCount_inj {e e' : String} {b b' : Bool} :
    listingCount e b = listingCount e' b' ↔ e = e' ∧ b = b' := by
  cases b <;> cases b' <;> simp [listingCount]

theorem listingCount_ne_listingDurations (e e' : String) (b : Bool) :
    listingCount e b ≠ listingDurations e' := by
  simp [listingCount, listingDurations]

variable (metrics : Metrics) (entity e : String) (succeeded : Bool)

/-- A listing counts among those of its entity that ended as it did. -/
theorem value_countListing (b : Bool) :
    (metrics.countListing entity succeeded).value (listingCount e b) =
      metrics.value (listingCount e b) + if entity = e ∧ succeeded = b then 1 else 0 := by
  have apart := listingCount_ne_listingDurations e entity b
  simp only [countListing, increment, value_add, listingCount_inj, apart, if_false, add_zero,
    eq_comm]

theorem value_countListing_durations :
    (metrics.countListing entity succeeded).value (listingDurations e) =
      metrics.value (listingDurations e) + if entity = e then 1 else 0 := by
  have apart := (listingCount_ne_listingDurations entity e succeeded).symm
  have same : listingDurations e = listingDurations entity ↔ entity = e := by
    simp [listingDurations, eq_comm]
  simp only [countListing, increment, value_add, apart, same, if_false, add_zero]

end Metrics

/-! ## One call -/

/-- A call for a listing, what it came to, and the metrics before and after it. -/
structure Account where
  entity : String
  request : Request
  run : ListingRun
  before : Metrics
  after : Metrics

/-- What holds of a call for a listing. -/
structure Account.Holds (defaults : Defaults) (registry : Registry) (db : Database)
    (account : Account) : Prop where
  /-- One for an entity that there is not is refused, and nothing is counted. -/
  unknown : registry.find? account.entity = none →
    account.run = ⟨[], refuse (.unknownEntity account.entity registry.names)⟩ ∧
      account.after = account.before
  /-- What fails while a request is compiled fails before any statement. -/
  stopped : ∀ failure,
    compileListing defaults registry account.entity account.request = .error failure →
      account.run = ⟨[], .error failure⟩
  /-- The rows are counted first. A failure of a statement, or of what is loaded after it, is what
  the call comes to. -/
  ran : ∀ listing, compileListing defaults registry account.entity account.request = .ok listing →
    (account.run.statements = [.count] ∨ account.run.statements = [.count, .data]) ∧
      account.run.result = do
        let page ← (listing.run db).result
        loadRelations db registry account.entity account.request.relations page.rows
        return page
  /-- The caller gets what the call came to, and the database stays as it is. -/
  kept : ∀ now, (Call.mk account.entity (.list account.request) now).perform defaults registry db =
    (account.run.result.map .page, db)

theorem Listing.run_statements (listing : Listing) (db : Database) :
    (listing.run db).statements = [.count] ∨ (listing.run db).statements = [.count, .data] := by
  unfold run
  split
  · exact .inl rfl
  · split
    · exact .inr rfl
    · exact .inr rfl

section
variable {defaults : Defaults} {registry : Registry} {db : Database} {entity : String}
    {request : Request}

theorem compileListing_unknown (unknown : registry.find? entity = none) :
    compileListing defaults registry entity request =
      refuse (.unknownEntity entity registry.names) := by
  have get : registry.get entity = refuse (.unknownEntity entity registry.names) := by
    rw [Registry.get, unknown]
  rw [compileListing, get]
  rfl

theorem listRecords_stopped {failure : Failure}
    (h : compileListing defaults registry entity request = .error failure) :
    listRecords defaults registry db entity request = ⟨[], .error failure⟩ := by
  simp only [listRecords, runListing, h, error_bind]

/-- What a call comes to is counted, if there is such an entity. -/
theorem callListing_eq (metrics : Metrics) :
    callListing defaults registry db entity request metrics =
      (listRecords defaults registry db entity request,
        if registry.contains entity then
          metrics.countListing entity (listRecords defaults registry db entity request).succeeded
        else metrics) := by
  cases found : registry.find? entity with
  | none =>
    have stopped : listRecords defaults registry db entity request = _ :=
      listRecords_stopped (compileListing_unknown found)
    have absent : registry.contains entity = false := by simp [Registry.contains, found]
    rw [stopped, absent, callListing, Registry.get, found]
    rfl
  | some root =>
    have there : registry.contains entity = true := by simp [Registry.contains, found]
    rw [there, callListing, Registry.get, found]
    rfl

/-- What a call adds to a series: what its listing does, if there is such an entity. -/
theorem value_callListing {series : Series} {amount : Bool → Int}
    (counted : ∀ (metrics : Metrics) succeeded,
      (metrics.countListing entity succeeded).value series =
        metrics.value series + amount succeeded)
    (metrics : Metrics) :
    let called := callListing defaults registry db entity request metrics
    called.2.value series =
      metrics.value series + if registry.contains entity then amount called.1.succeeded else 0 := by
  intro called
  have called_eq : called = _ := callListing_eq metrics
  rw [called_eq]
  by_cases there : registry.contains entity = true
  · rw [if_pos there, if_pos there, counted]
  · rw [if_neg there, if_neg there, add_zero]

theorem callListing_holds (metrics : Metrics) :
    let called := callListing defaults registry db entity request metrics
    Account.Holds defaults registry db ⟨entity, request, called.1, metrics, called.2⟩ := by
  intro called
  have called_eq : called = _ := callListing_eq metrics
  rw [called_eq]
  exact {
    unknown := fun unknown => by
      have absent : registry.contains entity = false := by simp [Registry.contains, unknown]
      exact ⟨listRecords_stopped (compileListing_unknown unknown), by simp [absent]⟩
    stopped := fun failure h => listRecords_stopped h
    ran := fun listing h => by
      have run : runListing defaults registry db entity request = listing.run db := by
        simp only [runListing, h]
      rw [listRecords, run]
      exact ⟨listing.run_statements db, rfl⟩
    kept := fun now => inSession_reading _ db }

/-- A call that came to a result is one for an entity that there is. -/
theorem Account.Holds.contains {account : Account} (h : account.Holds defaults registry db)
    (succeeded : account.run.succeeded = true) : registry.contains account.entity = true := by
  by_contra absent
  have unknown : registry.find? account.entity = none := by simpa [Registry.contains] using absent
  rw [(h.unknown unknown).1] at succeeded
  cases succeeded

end

/-! ## Runs of calls -/

/-- What comes of calls, one after the other. -/
def accounts (defaults : Defaults) (registry : Registry) (db : Database) (metrics : Metrics) :
    List (String × Request) → List Account
  | [] => []
  | (entity, request) :: calls =>
    let (run, after) := callListing defaults registry db entity request metrics
    ⟨entity, request, run, metrics, after⟩ :: accounts defaults registry db after calls

/-- The metrics that calls leave. -/
def metricsAfter (defaults : Defaults) (registry : Registry) (db : Database) (metrics : Metrics) :
    List (String × Request) → Metrics
  | [] => metrics
  | (entity, request) :: calls =>
    metricsAfter defaults registry db
      (callListing defaults registry db entity request metrics).2 calls

/-- Whether a call was for an entity that there is. -/
def Account.isFor (registry : Registry) (entity : String) (account : Account) : Bool :=
  account.entity = entity && registry.contains entity

/-- Whether it also ended like this. -/
def Account.counts (registry : Registry) (entity : String) (succeeded : Bool) (account : Account) :
    Bool :=
  account.isFor registry entity && account.run.succeeded == succeeded

section
variable {defaults : Defaults} {registry : Registry} {db : Database}

theorem accounts_hold (calls : List (String × Request)) (metrics : Metrics) :
    ∀ account ∈ accounts defaults registry db metrics calls,
      account.Holds defaults registry db := by
  induction calls generalizing metrics with
  | nil => exact fun account ha => nomatch ha
  | cons call calls ih =>
    intro account ha
    rcases List.mem_cons.1 ha with rfl | ha
    · exact callListing_holds metrics
    · exact ih _ account ha

/-- A series to which each call adds one or nothing holds how many of them added one. -/
theorem value_metricsAfter {series : Series} {adds : Account → Bool}
    (step : ∀ entity request metrics,
      let called := callListing defaults registry db entity request metrics
      called.2.value series = metrics.value series +
        if adds ⟨entity, request, called.1, metrics, called.2⟩ then 1 else 0)
    (calls : List (String × Request)) (metrics : Metrics) :
    (metricsAfter defaults registry db metrics calls).value series =
      metrics.value series + (accounts defaults registry db metrics calls).countP adds := by
  induction calls generalizing metrics with
  | nil =>
    show metrics.value series = metrics.value series + ((0 : Nat) : Int)
    omega
  | cons call calls ih =>
    obtain ⟨entity, request⟩ := call
    rw [metricsAfter, ih, step, accounts, List.countP_cons]
    split <;> push_cast <;> omega

theorem countListing_step (e : String) (b : Bool) (entity : String) (request : Request)
    (metrics : Metrics) :
    let called := callListing defaults registry db entity request metrics
    called.2.value (listingCount e b) = metrics.value (listingCount e b) +
      if Account.counts registry e b ⟨entity, request, called.1, metrics, called.2⟩ then 1
      else 0 := by
  intro called
  rw [value_callListing fun metrics succeeded => metrics.value_countListing entity e succeeded b]
  by_cases own : entity = e
  · subst own
    cases there : registry.contains entity <;> simp [Account.counts, Account.isFor, there, called]
  · simp [Account.counts, Account.isFor, own]

theorem countDuration_step (e : String) (entity : String) (request : Request) (metrics : Metrics) :
    let called := callListing defaults registry db entity request metrics
    called.2.value (listingDurations e) = metrics.value (listingDurations e) +
      if Account.isFor registry e ⟨entity, request, called.1, metrics, called.2⟩ then 1
      else 0 := by
  intro called
  rw [value_callListing fun metrics succeeded =>
    metrics.value_countListing_durations entity e succeeded]
  by_cases own : entity = e
  · subst own
    cases there : registry.contains entity <;> simp [Account.isFor, there]
  · simp [Account.isFor, own]

theorem countP_isFor (registry : Registry) (e : String) (history : List Account) :
    history.countP (Account.isFor registry e) =
      history.countP (Account.counts registry e true) +
        history.countP (Account.counts registry e false) := by
  induction history with
  | nil => rfl
  | cons account history ih =>
    simp only [List.countP_cons, ih, Account.counts]
    rcases Bool.eq_false_or_eq_true account.run.succeeded with ended | ended
    · simp [ended]
      omega
    · simp [ended]
      omega

/-- Calls that came to a result are for entities that there are. -/
theorem countP_succeeded {history : List Account}
    (holds : ∀ account ∈ history, account.Holds defaults registry db) (e : String) :
    history.countP (fun account => account.entity = e && account.run.succeeded) =
      history.countP (Account.counts registry e true) := by
  refine List.countP_congr fun account ha => ?_
  simp only [Account.counts, Account.isFor, Bool.and_eq_true, decide_eq_true_eq, beq_iff_eq]
  constructor
  · rintro ⟨rfl, succeeded⟩
    exact ⟨⟨rfl, (holds account ha).contains succeeded⟩, succeeded⟩
  · rintro ⟨⟨own, -⟩, succeeded⟩
    exact ⟨own, succeeded⟩

theorem countP_failed (registry : Registry) (e : String) (history : List Account) :
    history.countP (fun account =>
      account.entity = e && registry.contains e && !account.run.succeeded) =
        history.countP (Account.counts registry e false) := by
  refine List.countP_congr fun account _ => ?_
  simp [Account.counts, Account.isFor]

end

/-- What holds of every call for a listing (`Account.Holds`), and how many calls the counters of an
entity tell after a run of them: those that came to a result, those that failed for an entity that
there is, and both together. -/
theorem listings_accounted (defaults : Defaults) (registry : Registry) (db : Database)
    (metrics : Metrics) (calls : List (String × Request)) :
    let history := accounts defaults registry db metrics calls
    let after := metricsAfter defaults registry db metrics calls
    (∀ account ∈ history, account.Holds defaults registry db) ∧
      ∀ entity,
        let succeeded := history.countP fun account =>
          account.entity = entity && account.run.succeeded
        let failed := history.countP fun account =>
          account.entity = entity && registry.contains entity && !account.run.succeeded
        after.value (listingCount entity true) =
            metrics.value (listingCount entity true) + succeeded ∧
          after.value (listingCount entity false) =
            metrics.value (listingCount entity false) + failed ∧
          after.value (listingDurations entity) =
            metrics.value (listingDurations entity) + (succeeded + failed) := by
  intro history after
  have holds : ∀ account ∈ history, account.Holds defaults registry db :=
    accounts_hold calls metrics
  refine ⟨holds, fun entity => ?_⟩
  have durations : after.value (listingDurations entity) = _ :=
    value_metricsAfter (countDuration_step entity) calls metrics
  dsimp only
  rw [countP_succeeded holds, countP_failed]
  refine ⟨value_metricsAfter (countListing_step entity true) calls metrics,
    value_metricsAfter (countListing_step entity false) calls metrics, ?_⟩
  rw [durations, ← Nat.cast_add, ← countP_isFor]

/-- One listing comes to a page without rows, one fails, and one is for an entity that there is
not. -/
example :
    let after := metricsAfter {} Retail.registry Retail.shelves []
      [("brand", {}), ("brand", { page := .int 0 }), ("shelf", {})]
    after.value (listingCount "brand" true) = 1 ∧
      after.value (listingCount "brand" false) = 1 ∧
      after.value (listingDurations "brand") = 2 ∧
      after.value (listingDurations "shelf") = 0 := by
  decide +kernel

end RecordListing
