import RecordListing.Web.Http
import RecordListing.Proofs.Records.Calls

/-!
# What requests commit

A failure is never answered with the status of success, and work that fails is rolled back. So only
a deletion that is answered with this status changes the database, and what it makes of it is kept
(`exchange_commits`). After a run of requests the database is what these deletions make of it, one
after the other (`databaseAfter_eq`); they are done on the database itself (`Visit.deletion?`), with
no session to keep or drop them.
-/

set_option autoImplicit false

namespace RecordListing

open Outcome

/-! ## Answers -/

theorem Refusal.status_ne_success (reason : Refusal) : (reason.status : Int) ≠ 200 := by
  unfold Refusal.status
  cases reason.category <;> decide

/-- Whether an answer with a status may follow what serving came to. A failure is not answered with
the status of success. -/
def MayAnswer (reply : Except Raised (Int × Json)) (status : Int) : Prop :=
  match reply with
  | .ok (own, _) => status = own
  | .error (.failure _) => status ≠ 200
  | .error (.status _ _ _) => True

section
variable (around : Surroundings) (db : Database) (metrics : Metrics) (request : HttpRequest)

theorem answerRaised_status {failure : Failure} {told : List Log.Event} {answer : ErrorAnswer}
    (h : answerRaised around request (.failure failure) = (told, .ok answer)) :
    answer.status ≠ 200 := by
  cases failure with
  | crash crash => cases congrArg Prod.snd h
  | refusal reason =>
    have answered := congrArg Prod.snd h
    simp only [answerRaised, bind_eq_ok_iff, pure_eq, Except.ok.injEq] at answered
    obtain ⟨details, -, body, -, rfl⟩ := answered
    exact reason.status_ne_success

/-- Counting a request changes neither what it comes to nor the database. -/
theorem exchangeCounted_served : ∃ counted,
    let served := serve around db counted request
    let done := exchangeCounted around db metrics request
    done.database = served.database ∧ MayAnswer served.reply done.response.status := by
  refine ⟨if around.settings.observed then metrics.begin request.route else metrics, ?_⟩
  unfold exchangeCounted conclude
  dsimp only
  generalize serve around db _ request = served
  cases replied : served.reply with
  | ok answer => exact ⟨rfl, rfl⟩
  | error raised =>
    dsimp only
    split
    · rename_i told answer answered
      refine ⟨rfl, ?_⟩
      cases raised with
      | failure failure => exact answerRaised_status around request answered
      | status code reason headers => trivial
    · refine ⟨rfl, ?_⟩
      cases raised with
      | failure failure =>
        have crashed : crashResponse.status ≠ 200 := by decide
        exact crashed
      | status code reason headers => trivial

/-! ## What is served -/

theorem servedInSession_reading (read : Database → Except Raised (Int × Json)) :
    (servedInSession db metrics fun db => (read db, db)).database = db :=
  congrArg Prod.snd (inSession_reading read db)

theorem serveListing_database (entity : String) :
    (serveListing around db metrics request entity).database = db := by
  unfold serveListing
  cases request.switch "withDeleted" with
  | error body => rfl
  | ok withDeleted =>
    cases readBrackets request.query with
    | error reason => exact servedInSession_reading db _ fun _ => _
    | ok brackets =>
      cases around.listingFault with
      | some raised => exact servedInSession_reading db _ fun _ => _
      | none =>
        dsimp only
        exact servedInSession_reading db _ fun db => _

theorem serveRecord_database (entity id : String) :
    (serveRecord around db metrics request entity id).database = db := by
  unfold serveRecord
  cases request.switch "withDeleted" with
  | error body => rfl
  | ok withDeleted =>
    dsimp only
    exact servedInSession_reading db _ fun _ => _

/-- A request that deletes nothing keeps the database. -/
theorem serve_reading (other : request.method ≠ "DELETE") :
    (serve around db metrics request).database = db := by
  unfold serve
  cases resourceOf? around.settings.observed request.path with
  | none =>
    dsimp only
    split <;> rfl
  | some resource =>
    dsimp only
    split
    · rfl
    · cases resource with
      | description => rfl
      | health => rfl
      | readiness =>
        simp only [serveReadiness]
        split <;> rfl
      | metrics => rfl
      | listing entity => exact serveListing_database around db metrics request entity
      | record entity id =>
        exact serveRecord_database around db metrics request entity id

/-- What the deletion that a request asks for comes to on the database itself. -/
def Surroundings.deletion? : Option (Outcome Change) :=
  match resourceOf? around.settings.observed request.path, request.switch "soft" with
  | some (.record entity id), .ok soft => some (around.deletion entity id soft db)
  | _, _ => none

/-- A deletion that succeeds is kept and answered with the status of success, unless it cannot be
written; any other is dropped and answered with another status. -/
def Served.Deletes (served : Served) : Prop :=
  (∃ change, around.deletion? db request = some (.ok change) ∧ around.writeFault = none ∧
      served.database = change.database ∧ ∀ status, MayAnswer served.reply status → status = 200) ∨
    (∀ change, around.deletion? db request = some (.ok change) → around.writeFault ≠ none) ∧
      served.database = db ∧ ¬ MayAnswer served.reply 200

theorem serveDeletion_deletes {entity id : String}
    (found : resourceOf? around.settings.observed request.path = some (.record entity id)) :
    (serveDeletion around db metrics request entity id).Deletes around db request := by
  unfold serveDeletion Served.Deletes Surroundings.deletion?
  rw [found]
  cases request.switch "soft" with
  | error body =>
    have refused : ¬ (200 : Int) = 422 := by decide
    refine .inr ⟨?_, rfl, refused⟩
    intro change asked
    cases asked
  | ok soft =>
    simp only [servedInSession, inSession_andThen, changeWork, Option.some.injEq]
    cases changed : around.deletion entity id soft db with
    | error failure =>
      refine .inr ⟨?_, rfl, fun h => h rfl⟩
      intro change asked
      cases asked
    | ok change =>
      dsimp only
      cases fault : around.writeFault with
      | none =>
        simp only [Surroundings.written, fault]
        exact .inl ⟨change, rfl, trivial, rfl, fun status h => h⟩
      | some crash =>
        simp only [Surroundings.written, fault]
        refine .inr ⟨?_, rfl, fun h => h rfl⟩
        intro _ _ written
        cases written

/-- Deletions are served at single records alone. -/
theorem serve_deletes (deletion : request.method = "DELETE") :
    (serve around db metrics request).Deletes around db request := by
  have declined {status : Int} (body : Json) (other : status ≠ 200) :
      ¬ MayAnswer (.ok (status, body)) 200 := fun h => other h.symm
  unfold serve
  cases found : resourceOf? around.settings.observed request.path with
  | none =>
    have nothing : ∀ change, around.deletion? db request ≠ some (.ok change) := by
      simp [Surroundings.deletion?, found]
    dsimp only
    split
    · exact .inr ⟨fun change h => absurd h (nothing change), rfl, declined _ (by decide)⟩
    · exact .inr ⟨fun change h => absurd h (nothing change), rfl, declined _ (by decide)⟩
  | some resource =>
    cases resource with
    | record entity id =>
      have known : (Resource.record entity id).methods.contains "DELETE" = true := rfl
      simp only [deletion, known, Bool.not_true, Bool.false_eq_true, if_false, if_true]
      exact serveDeletion_deletes around db metrics request found
    | _ =>
      have nothing : ∀ change, around.deletion? db request ≠ some (.ok change) := by
        simp [Surroundings.deletion?, found]
      rw [deletion]
      exact .inr ⟨fun change h => absurd h (nothing change), rfl, declined _ (by decide)⟩

end

/-! ## Visits -/

/-- A request, when it comes, and what goes wrong with the database meanwhile. -/
structure Visit where
  request : HttpRequest
  now : Timestamp
  databaseReachable : Bool := true
  listingFault : Option Raised := none
  writeFault : Option Crash := none

namespace Visit

/-- What the request is served with. -/
def around (settings : Settings) (registry : Registry) (visit : Visit) : Surroundings where
  settings
  registry
  now := visit.now
  databaseReachable := visit.databaseReachable
  listingFault := visit.listingFault
  writeFault := visit.writeFault

/-- What the deletion that a request asks for comes to: of the record that its path names, marked as
deleted or removed as the request says. -/
def deletion? (settings : Settings) (registry : Registry) (visit : Visit) (db : Database) :
    Option (Outcome Change) :=
  match resourceOf? settings.observed visit.request.normal.path,
    visit.request.normal.switch "soft" with
  | some (.record entity id), .ok soft =>
    some (if soft then softDeleteRecord db registry visit.now entity (.text id)
      else deleteRecord db registry visit.now entity (.text id))
  | _, _ => none

/-- What a request makes of a database if the deletion that it asks for succeeds. -/
def deleted (settings : Settings) (registry : Registry) (visit : Visit) (db : Database) :
    Database :=
  match visit.deletion? settings registry db with
  | some (.ok change) => change.database
  | _ => db

theorem deleted_eq {settings : Settings} {registry : Registry} {visit : Visit} {db : Database}
    {change : Change} (h : visit.deletion? settings registry db = some (.ok change)) :
    visit.deleted settings registry db = change.database := by
  unfold deleted
  split
  · rename_i found
    rw [h] at found
    cases found
    rfl
  · rename_i fails
    exact absurd h (fails change)

theorem deletion?_around (settings : Settings) (registry : Registry) (visit : Visit)
    (db : Database) :
    (visit.around settings registry).deletion? db visit.request.normal =
      visit.deletion? settings registry db := by
  rfl

end Visit

/-- A visit with the database that it found and what came of it. -/
structure Turn where
  visit : Visit
  before : Database
  exchange : Exchange

/-- Whether the visit was a deletion that was answered with the status of success. -/
def Turn.deletes (turn : Turn) : Bool :=
  turn.visit.request.normal.method = "DELETE" && turn.exchange.response.status = 200

/-- Whether a visit asks for a deletion that succeeds with this change and can be written. -/
def Turn.Asks (settings : Settings) (registry : Registry) (turn : Turn) (change : Change) : Prop :=
  turn.visit.request.normal.method = "DELETE" ∧ turn.visit.writeFault = none ∧
    turn.visit.deletion? settings registry turn.before = some (.ok change)

/-- What a turn did: it deleted what it asks for and kept the change, or it asks for no deletion
that succeeds and kept the database. -/
def Turn.Commits (settings : Settings) (registry : Registry) (turn : Turn) : Prop :=
  (turn.deletes = true ∧ ∃ change, turn.Asks settings registry change ∧
      turn.exchange.database = change.database) ∨
    turn.deletes = false ∧ (∀ change, ¬ turn.Asks settings registry change) ∧
      turn.exchange.database = turn.before

/-- What comes of visits, one after the other. -/
def turns (settings : Settings) (registry : Registry) (db : Database) (metrics : Metrics) :
    List Visit → List Turn
  | [] => []
  | visit :: visits =>
    let done := exchange (visit.around settings registry) db metrics visit.request
    ⟨visit, db, done⟩ :: turns settings registry done.database done.metrics visits

/-- The database that visits leave. -/
def databaseAfter (settings : Settings) (registry : Registry) (db : Database) (metrics : Metrics) :
    List Visit → Database
  | [] => db
  | visit :: visits =>
    let done := exchange (visit.around settings registry) db metrics visit.request
    databaseAfter settings registry done.database done.metrics visits

theorem preflight?_method {settings : Settings} {request : HttpRequest} {response : HttpResponse}
    (h : preflight? settings request = some response) : request.method = "OPTIONS" := by
  unfold preflight? at h
  split at h
  · split at h
    · cases h
    · rename_i options
      exact not_not.1 options
  · cases h

section
variable (settings : Settings) (registry : Registry) (db : Database) (metrics : Metrics)
    (visit : Visit)

/-- A visit is a successful deletion whose change is kept, or keeps the database. -/
theorem exchange_commits :
    Turn.Commits settings registry
      ⟨visit, db, exchange (visit.around settings registry) db metrics visit.request⟩ := by
  dsimp only [Turn.Commits, Turn.Asks, Turn.deletes, exchange]
  cases asked : preflight? (visit.around settings registry).settings visit.request.normal with
  | some response =>
    have options := preflight?_method asked
    rw [options]
    exact .inr ⟨rfl, fun _ h => absurd h.1 (by decide), rfl⟩
  | none =>
    obtain ⟨counted, kept, answered⟩ := exchangeCounted_served (visit.around settings registry) db
      metrics visit.request.normal
    dsimp only
    rw [kept]
    by_cases deletion : visit.request.normal.method = "DELETE"
    · have served := serve_deletes (visit.around settings registry) db counted _ deletion
      rw [Served.Deletes, Visit.deletion?_around] at served
      rcases served with ⟨change, changed, written, database, success⟩ |
        ⟨failed, unchanged, declined⟩
      · exact .inl ⟨by simp [deletion, success _ answered], change, ⟨deletion, written, changed⟩,
          database⟩
      · have other : (exchangeCounted (visit.around settings registry) db metrics
            visit.request.normal).response.status ≠ 200 := by
          intro h
          rw [h] at answered
          exact declined answered
        exact .inr ⟨by simp [other], fun change h => failed change h.2.2 h.2.1, unchanged⟩
    · exact .inr ⟨by simp [deletion], fun _ h => deletion h.1,
        serve_reading _ db counted _ deletion⟩

end

/-! ## Runs of visits -/

section
variable {settings : Settings} {registry : Registry}

theorem turns_commit (visits : List Visit) (db : Database) (metrics : Metrics) :
    ∀ turn ∈ turns settings registry db metrics visits, turn.Commits settings registry := by
  induction visits generalizing db metrics with
  | nil => exact fun turn ht => nomatch ht
  | cons visit visits ih =>
    intro turn ht
    rcases List.mem_cons.1 ht with rfl | ht
    · exact exchange_commits settings registry db metrics visit
    · exact ih _ _ turn ht

theorem databaseAfter_eq (visits : List Visit) (db : Database) (metrics : Metrics) :
    databaseAfter settings registry db metrics visits =
      ((turns settings registry db metrics visits).filter Turn.deletes).foldl
        (fun db turn => turn.visit.deleted settings registry db) db := by
  induction visits generalizing db metrics with
  | nil => rfl
  | cons visit visits ih =>
    simp only [databaseAfter, turns, List.filter_cons]
    rw [ih]
    rcases exchange_commits settings registry db metrics visit with
      ⟨deletes, change, ⟨-, -, changed⟩, database⟩ | ⟨other, -, kept⟩
    · rw [if_pos deletes, List.foldl_cons, Visit.deleted_eq changed, database]
    · rw [if_neg (by simpa using other), kept]

end

/-- After a run of requests the database is what the deletions that were answered with success make
of it, one after the other. Each of them succeeded and what it changed is kept; each that succeeds,
and can be written, is answered so. A request that reads and one that is answered with any other
status leave the database as it was. -/
theorem deletions_commit (settings : Settings) (registry : Registry) (visits : List Visit)
    (db : Database) (metrics : Metrics) :
    let history := turns settings registry db metrics visits
    databaseAfter settings registry db metrics visits =
        (history.filter Turn.deletes).foldl
          (fun db turn => turn.visit.deleted settings registry db) db ∧
      (∀ turn ∈ history, turn.deletes = true → ∃ change,
        turn.visit.deletion? settings registry turn.before = some (.ok change) ∧
          turn.exchange.database = change.database) ∧
      (∀ turn ∈ history, turn.deletes = true ↔ ∃ change, turn.Asks settings registry change) ∧
      ∀ turn ∈ history,
        turn.visit.request.normal.method = "GET" ∨ turn.exchange.response.status ≠ 200 →
          turn.exchange.database = turn.before := by
  intro history
  refine ⟨databaseAfter_eq visits db metrics, fun turn ht deletes => ?_, fun turn ht => ?_,
    fun turn ht other => ?_⟩
  · rcases turns_commit visits db metrics turn ht with
      ⟨-, change, ⟨-, -, changed⟩, kept⟩ | ⟨none, -⟩
    · exact ⟨change, changed, kept⟩
    · rw [deletes] at none
      cases none
  · rcases turns_commit visits db metrics turn ht with ⟨deletes, change, asks, -⟩ | ⟨none, fails, -⟩
    · exact iff_of_true deletes ⟨change, asks⟩
    · exact iff_of_false (by simp [none]) (not_exists.2 fails)
  · have kept : turn.deletes = false := by
      rcases other with reads | status
      · simp [Turn.deletes, reads]
      · simp [Turn.deletes, status]
    rcases turns_commit visits db metrics turn ht with ⟨deletes, -⟩ | ⟨-, -, same⟩
    · rw [kept] at deletes
      cases deletes
    · exact same

/-- A category is marked as deleted. -/
example :
    let path := "/api/v1/records/category/00000000-0000-0000-0000-000000000001"
    let visit : Visit :=
      { request := { method := "DELETE", path, query := [("soft", "true")] }
        now := .startOf ⟨2024, 2, 1, by decide⟩ }
    (turns { databaseUrl := "" } Retail.registry Retail.shelves [] [visit]).map Turn.deletes =
      [true] := by
  decide +kernel

end RecordListing
