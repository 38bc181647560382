import Mathlib.Logic.Relation
import RecordListing.Web.Http
import RecordListing.Proofs.Query.ParameterNames
import RecordListing.Proofs.Records.Accounts

/-!
# Requests under way

Requests overlap: each begins, is served while others are, and ends with an answer or with a failure
that goes through to the server. However they overlap, the metrics tell at every moment how many are
under way, and how those that have ended did (`requests_counted`).
-/

set_option autoImplicit false

namespace RecordListing

open Outcome

/-! ## Series -/

theorem intText_injective : Function.Injective Int.repr := by
  have unsigned (m n : Nat) : Nat.repr m ≠ "-" ++ Nat.repr n := by
    intro h
    have minus : '-' ∈ (Nat.repr m).toList := by
      rw [h, String.toList_append]
      exact List.mem_append_left _ List.mem_cons_self
    exact absurd (isDigit_of_mem_repr minus) (by decide)
  intro a b h
  cases a with
  | ofNat m =>
    cases b with
    | ofNat n => exact congrArg Int.ofNat (repr_injective h)
    | negSucc n => exact absurd h (unsigned m (n + 1))
  | negSucc m =>
    cases b with
    | ofNat n => exact absurd h.symm (unsigned n (m + 1))
    | negSucc n =>
      have same : Nat.repr (m + 1) = Nat.repr (n + 1) := (String.append_right_inj "-").1 h
      exact congrArg Int.negSucc (Nat.succ.inj (repr_injective same))

theorem requestsInProgress_inj {r r' : Route} :
    requestsInProgress r' = requestsInProgress r ↔ r = r' := by
  cases r
  cases r'
  simp [requestsInProgress, eq_comm]

theorem requestCount_inj {r r' : Route} {n n' : Int} :
    requestCount r' n' = requestCount r n ↔ r = r' ∧ n = n' := by
  cases r
  cases r'
  simp [requestCount, intText_injective.eq_iff, and_assoc, eq_comm]

theorem errorCount_inj {r r' : Route} {l l' : String} :
    errorCount r' l' = errorCount r l ↔ r = r' ∧ l = l' := by
  cases r
  cases r'
  simp [errorCount, and_comm, eq_comm]

/-! ## Beginning and ending -/

/-- The status that an ending is counted under. -/
def Ending.status : Ending → Int
  | .answered status => status
  | .escaped _ => 500

/-- What an ending is counted under besides its status. -/
def Ending.series (route : Route) : Ending → Series
  | .answered _ => requestDurations route
  | .escaped label => errorCount route label

namespace Metrics

variable (metrics : Metrics) (route r : Route) (ending : Ending)

theorem value_begin (series : Series) : (metrics.begin route).value series =
    metrics.value series + if series = requestsInProgress route then 1 else 0 :=
  metrics.value_add _ _ _

theorem value_finish (series : Series) : (metrics.finish route ending).value series =
    metrics.value series + (if series = requestCount route ending.status then 1 else 0) +
      (if series = ending.series route then 1 else 0) +
      if series = requestsInProgress route then -1 else 0 := by
  cases ending <;> simp only [finish, increment, value_add] <;> rfl

/-- A series of another name than those of listings is the same after a listing is counted. -/
theorem value_countListing_other (entity : String) (succeeded : Bool) {series : Series}
    (count : series.name ≠ "query_compilations_total")
    (durations : series.name ≠ "query_duration_seconds_count") :
    (metrics.countListing entity succeeded).value series = metrics.value series := by
  have no_count : series ≠ listingCount entity succeeded := by
    rintro rfl
    exact count rfl
  have no_duration : series ≠ listingDurations entity := by
    rintro rfl
    exact durations rfl
  simp only [countListing, increment, value_add, no_count, no_duration, if_false, add_zero]

theorem value_finish_underWay : (metrics.finish route ending).value (requestsInProgress r) =
    metrics.value (requestsInProgress r) + if route = r then -1 else 0 := by
  have counts : requestsInProgress r ≠ requestCount route ending.status := by
    simp [requestsInProgress, requestCount]
  have other : requestsInProgress r ≠ ending.series route := by
    cases ending <;> simp [Ending.series, requestsInProgress, requestDurations, errorCount]
  rw [value_finish, if_neg counts, if_neg other, add_zero, add_zero]
  simp only [requestsInProgress_inj]

theorem value_finish_ended (status : Int) :
    (metrics.finish route ending).value (requestCount r status) =
      metrics.value (requestCount r status) +
        if route = r ∧ ending.status = status then 1 else 0 := by
  have other : requestCount r status ≠ ending.series route := by
    cases ending <;> simp [Ending.series, requestCount, requestDurations, errorCount]
  have underWay : requestCount r status ≠ requestsInProgress route := by
    simp [requestCount, requestsInProgress]
  rw [value_finish, if_neg other, if_neg underWay, add_zero, add_zero]
  simp only [requestCount_inj]

theorem value_finish_escaped (label : String) :
    (metrics.finish route ending).value (errorCount r label) =
      metrics.value (errorCount r label) +
        if route = r ∧ ending = .escaped label then 1 else 0 := by
  have counts : errorCount r label ≠ requestCount route ending.status := by
    simp [errorCount, requestCount]
  have underWay : errorCount r label ≠ requestsInProgress route := by
    simp [errorCount, requestsInProgress]
  have same : errorCount r label = ending.series route ↔
      route = r ∧ ending = .escaped label := by
    cases ending with
    | answered status => simp [Ending.series, errorCount, requestDurations]
    | escaped other => simp [Ending.series, errorCount_inj]
  rw [value_finish, if_neg counts, if_neg underWay, add_zero, add_zero]
  simp only [same]

end Metrics

/-! ## Serving -/

section
variable (around : Surroundings) (db : Database) (metrics : Metrics) (request : HttpRequest)

/-- A listing is counted once at most. -/
theorem serveListing_metrics (entity : String) :
    (serveListing around db metrics request entity).metrics = metrics ∨ ∃ succeeded,
      (serveListing around db metrics request entity).metrics =
        metrics.countListing entity succeeded := by
  unfold serveListing
  cases request.switch "withDeleted" with
  | error body => exact .inl rfl
  | ok withDeleted =>
    cases readBrackets request.query with
    | error reason => exact .inl rfl
    | ok brackets =>
      cases around.listingFault with
      | some raised => exact .inl rfl
      | none =>
        dsimp only [servedInSession]
        rw [callListing_eq]
        split
        · exact .inr ⟨_, rfl⟩
        · exact .inl rfl

/-- Whatever else is served counts nothing. -/
theorem serve_metrics :
    (serve around db metrics request).metrics = metrics ∨ ∃ entity succeeded,
      (serve around db metrics request).metrics = metrics.countListing entity succeeded := by
  unfold serve
  cases resourceOf? around.settings.observed request.path with
  | none =>
    dsimp only
    split <;> exact .inl rfl
  | some resource =>
    dsimp only
    split
    · exact .inl rfl
    · cases resource with
      | description => exact .inl rfl
      | health => exact .inl rfl
      | readiness =>
        simp only [serveReadiness]
        split <;> exact .inl rfl
      | metrics => exact .inl rfl
      | listing entity =>
        exact (serveListing_metrics around db metrics request entity).imp_right (.intro entity)
      | record entity id =>
        dsimp only
        split
        · unfold serveDeletion
          split <;> exact .inl rfl
        · unfold serveRecord
          split <;> exact .inl rfl

end

/-! ## Passages -/

/-- A request that was served, and what it was served with. -/
structure Passage where
  around : Surroundings
  request : HttpRequest
  served : Served

namespace Passage

/-- What is left of the request. -/
def exchange (passage : Passage) : Exchange :=
  conclude passage.around passage.request passage.served

/-- What failed and has no answer of its own, if anything does. -/
def escaped? (passage : Passage) : Option Failure :=
  match passage.served.reply with
  | .ok _ => none
  | .error raised =>
    match (answerRaised passage.around passage.request raised).2 with
    | .ok _ => none
    | .error failure => some failure

/-- How the request ended. -/
def ending (passage : Passage) : Ending :=
  match passage.escaped? with
  | some failure => .escaped failure.label
  | none => .answered passage.exchange.response.status

/-- A request is counted out as it ended, and an answer has the identifier that its request came
with. -/
theorem exchange_spec (passage : Passage) (observed : passage.around.settings.observed = true) :
    passage.exchange.metrics =
        passage.served.metrics.finish passage.request.route passage.ending ∧
      (passage.escaped? = none →
        passage.exchange.response.requestId = passage.request.header? requestIdHeader) := by
  obtain ⟨around, request, served⟩ := passage
  simp only [exchange, ending, escaped?, conclude]
  have counted : around.settings.observed = true := observed
  cases replied : served.reply with
  | ok answer => simp [counted]
  | error raised =>
    cases answered : answerRaised around request raised with
    | mk told outcome =>
      cases outcome with
      | ok answer => simp [counted, answered]
      | error failure => simp [counted, answered]

end Passage

/-! ## Overlapping requests -/

/-- The metrics, the requests that have begun and not ended, and those that have ended. -/
structure Traffic where
  metrics : Metrics
  underWay : List HttpRequest := []
  ended : List Passage := []

namespace Traffic

/-- What happens next: a request begins, a listing is counted while it is served, or any of those
under way ends, whatever serving it came to. -/
inductive Step : Traffic → Traffic → Prop
  | begin (traffic : Traffic) (request : HttpRequest) :
    Step traffic { traffic with
      metrics := traffic.metrics.begin request.route
      underWay := request :: traffic.underWay }
  | list (traffic : Traffic) (entity : String) (succeeded : Bool) :
    Step traffic { traffic with metrics := traffic.metrics.countListing entity succeeded }
  | finish {traffic : Traffic} (before after : List HttpRequest) (passage : Passage) :
    traffic.underWay = before ++ passage.request :: after →
    passage.around.settings.observed = true → passage.served.metrics = traffic.metrics →
    Step traffic {
      metrics := passage.exchange.metrics
      underWay := before ++ after
      ended := passage :: traffic.ended }

/-- What may happen in any number of steps. -/
abbrev Reaches : Traffic → Traffic → Prop := Relation.ReflTransGen Step

/-- What the metrics tell since they were `start`. -/
structure Counted (start : Metrics) (traffic : Traffic) : Prop where
  /-- As many requests are in progress as have begun and not ended. -/
  underWay : ∀ route, traffic.metrics.value (requestsInProgress route) =
    start.value (requestsInProgress route) +
      traffic.underWay.countP fun request => request.route = route
  /-- Each request that has ended is counted once, under its status. -/
  ended : ∀ route status, traffic.metrics.value (requestCount route status) =
    start.value (requestCount route status) +
      traffic.ended.countP fun passage =>
        passage.request.route = route && passage.ending.status = status
  /-- Each failure that went through is counted once, and nothing else is counted as one. -/
  escaped : ∀ route label, traffic.metrics.value (errorCount route label) =
    start.value (errorCount route label) +
      traffic.ended.countP fun passage =>
        passage.request.route = route && passage.ending = .escaped label
  /-- An answer has the identifier that its request came with. -/
  identified : ∀ passage ∈ traffic.ended, passage.escaped? = none →
    ∀ id, passage.request.header? requestIdHeader = some id →
      passage.exchange.response.requestId = some id

theorem cast_countP_cons {α : Type} (test : α → Bool) (a : α) (items : List α) :
    ((a :: items).countP test : Int) = items.countP test + if test a = true then 1 else 0 := by
  rw [List.countP_cons]
  split <;> simp

section
variable {start : Metrics} {traffic next : Traffic}

/-- A step keeps what the metrics tell. -/
theorem Step.counted (step : Step traffic next) (h : traffic.Counted start) :
    next.Counted start := by
  cases step with
  | begin request =>
    refine ⟨fun route => ?_, fun route status => ?_, fun route label => ?_, h.identified⟩
    · simp only [Metrics.value_begin, h.underWay, cast_countP_cons, requestsInProgress_inj,
        decide_eq_true_eq, add_assoc]
    · have apart : requestCount route status ≠ requestsInProgress request.route := by
        simp [requestCount, requestsInProgress]
      simp only [Metrics.value_begin, apart, if_false, add_zero, h.ended]
    · have apart : errorCount route label ≠ requestsInProgress request.route := by
        simp [errorCount, requestsInProgress]
      simp only [Metrics.value_begin, apart, if_false, add_zero, h.escaped]
  | list entity succeeded =>
    refine ⟨fun route => ?_, fun route status => ?_, fun route label => ?_, h.identified⟩
    · dsimp only
      rw [Metrics.value_countListing_other, h.underWay] <;> simp [requestsInProgress]
    · dsimp only
      rw [Metrics.value_countListing_other, h.ended] <;> simp [requestCount]
    · dsimp only
      rw [Metrics.value_countListing_other, h.escaped] <;> simp [errorCount]
  | finish before after passage here observed latest =>
    obtain ⟨metrics, identified⟩ := passage.exchange_spec observed
    refine ⟨fun route => ?_, fun route status => ?_, fun route label => ?_, ?_⟩
    · dsimp only
      rw [metrics, latest, Metrics.value_finish_underWay, h.underWay, here]
      simp only [List.countP_append, List.countP_cons, decide_eq_true_eq]
      split <;> push_cast <;> omega
    · dsimp only
      rw [metrics, latest, Metrics.value_finish_ended, h.ended, cast_countP_cons]
      simp only [Bool.and_eq_true, decide_eq_true_eq, add_assoc]
    · dsimp only
      rw [metrics, latest, Metrics.value_finish_escaped, h.escaped, cast_countP_cons]
      simp only [Bool.and_eq_true, decide_eq_true_eq, add_assoc]
    · intro other ho answered id own
      rcases List.mem_cons.1 ho with rfl | ho
      · rw [identified answered, own]
      · exact h.identified other ho answered id own

/-- A request that is served alone begins, has at most one listing counted, and ends. -/
theorem exchangeCounted_reaches (traffic : Traffic) (around : Surroundings) (db : Database)
    (request : HttpRequest) (observed : around.settings.observed = true) :
    let served := serve around db (traffic.metrics.begin request.route) request
    let passage : Passage := ⟨around, request, served⟩
    passage.exchange = exchangeCounted around db traffic.metrics request ∧
      Reaches traffic { traffic with
        metrics := passage.exchange.metrics
        ended := passage :: traffic.ended } := by
  intro served passage
  let begun : Traffic := { traffic with
    metrics := traffic.metrics.begin request.route
    underWay := request :: traffic.underWay }
  have counted : Reaches begun { begun with metrics := served.metrics } := by
    rcases serve_metrics around db begun.metrics request with same | ⟨entity, succeeded, listed⟩
    · have same : served.metrics = begun.metrics := same
      rw [same]
    · have listed : served.metrics = begun.metrics.countListing entity succeeded := listed
      rw [listed]
      exact .single (.list begun entity succeeded)
  have last : Step { begun with metrics := served.metrics } _ :=
    .finish [] traffic.underWay passage rfl observed rfl
  constructor
  · rw [exchangeCounted, if_pos observed]
    rfl
  · exact (counted.head (.begin traffic request)).tail last

end

end Traffic

/-- However requests overlap, at every moment as many are counted in progress as have begun and not
ended; each that has ended is counted once under its status, and as an error exactly if a failure of
it went through to the server. Each answer has the identifier that its request came with. -/
theorem requests_counted {start : Metrics} {traffic : Traffic}
    (h : Traffic.Reaches { metrics := start } traffic) : traffic.Counted start := by
  induction h with
  | refl =>
    constructor
    · simp
    · simp
    · simp
    · simp
  | tail _ step ih => exact step.counted ih

/-- Two requests to one path overlap: the first is answered, and then the second fails. -/
theorem requests_counted_pings :
    let around : Surroundings :=
      { settings := { databaseUrl := "" }, registry := Retail.registry
        now := .startOf ⟨2024, 2, 1, by decide⟩ }
    let named : HttpRequest :=
      { method := "GET", path := "/ping", headers := [("X-Request-ID", "abc-123")] }
    let plain : HttpRequest := { method := "GET", path := "/ping" }
    let metrics := Metrics.begin plain.route (Metrics.begin named.route [])
    let answered : Passage := ⟨around, named,
      { reply := .ok (200, .object []), database := Retail.shelves, metrics }⟩
    let failed : Passage := ⟨around, plain,
      { reply := .error (.failure (.crash ⟨.badValue, ""⟩)), database := Retail.shelves
        metrics := answered.exchange.metrics }⟩
    let traffic : Traffic := { metrics := failed.exchange.metrics, ended := [failed, answered] }
    Traffic.Reaches { metrics := [] } traffic ∧ traffic.Counted [] := by
  intro around named plain metrics answered failed traffic
  let one : Traffic := { metrics := Metrics.begin named.route [], underWay := [named] }
  let both : Traffic := { metrics, underWay := [plain, named] }
  let between : Traffic :=
    { metrics := answered.exchange.metrics, underWay := [plain], ended := [answered] }
  have first : Traffic.Step { metrics := [] } one := .begin { metrics := [] } named
  have second : Traffic.Step one both := .begin one plain
  have third : Traffic.Step both between :=
    .finish [plain] [] answered rfl rfl rfl
  have last : Traffic.Step between traffic :=
    .finish [] [] failed rfl rfl rfl
  have reach : Traffic.Reaches { metrics := [] } traffic :=
    (((Relation.ReflTransGen.single first).tail second).tail third).tail last
  exact ⟨reach, requests_counted reach⟩

end RecordListing
