import RecordListing.Records.Access

/-!
# Sessions

Work on the database is done in a session of its own: what it changes is kept once it has come to a
result, and dropped if it fails. Callers list, find, delete and mark records.
-/

set_option autoImplicit false

namespace RecordListing

/-! ## Keeping and dropping changes -/

structure Session where
  /-- What is kept. -/
  committed : Database
  /-- What the session sees, with its own changes. -/
  current : Database

namespace Session

def start (db : Database) : Session := ⟨db, db⟩

def commit (session : Session) : Session := { session with committed := session.current }

def rollback (session : Session) : Session := { session with current := session.committed }

end Session

/-- What is done in a session: it comes to a result or fails, and may change the database before it
does. -/
abbrev Work (ε α : Type) : Type := Database → Except ε α × Database

/-- Does work in a session of its own; what it comes to, and the database that is kept. -/
def inSession {ε α : Type} (work : Work ε α) (db : Database) : Except ε α × Database :=
  let session := Session.start db
  let (outcome, current) := work session.current
  let session := { session with current }
  match outcome with
  | .ok result => (.ok result, session.commit.committed)
  | .error failure => (.error failure, session.rollback.committed)

/-- A change as work: it answers with a message and leaves the database changed if it succeeds. -/
def changeWork (change : Database → Outcome Change) : Work Failure String := fun db =>
  match change db with
  | .ok change => (.ok change.message, change.database)
  | .error failure => (.error failure, db)

/-- Work with another result, or another failure. -/
def Work.andThen {ε ε' α β : Type} (work : Work ε α) (f : Except ε α → Except ε' β) : Work ε' β :=
  fun db =>
    let (outcome, current) := work db
    (f outcome, current)

/-! ## Operations -/

/-- What a caller may ask of the records of an entity. -/
inductive Operation
  | list (request : Request)
  | find (id : Value) (relations : List String) (withDeleted : Bool)
  | delete (id : Value)
  | softDelete (id : Value)

/-- What is answered. -/
inductive Reply
  | page (page : Page)
  | record (row : Row)
  | done (message : String)

/-- An operation on the records of an entity, at some time. -/
structure Call where
  entity : String
  operation : Operation
  now : Timestamp

namespace Call

def work (defaults : Defaults) (registry : Registry) (call : Call) : Work Failure Reply :=
  match call.operation with
  | .list request => fun db =>
    ((listRecords defaults registry db call.entity request).result.map .page, db)
  | .find id relations withDeleted => fun db =>
    ((findRecord db registry call.entity id relations withDeleted).map fun found =>
      .record found.2, db)
  | .delete id =>
    (changeWork fun db => deleteRecord db registry call.now call.entity id).andThen (·.map .done)
  | .softDelete id =>
    (changeWork fun db => softDeleteRecord db registry call.now call.entity id).andThen
      (·.map .done)

/-- Carries out a call in a session of its own. -/
def perform (defaults : Defaults) (registry : Registry) (call : Call) (db : Database) :
    Outcome Reply × Database :=
  inSession (call.work defaults registry) db

/-- The database after calls, one after the other. -/
def performAll (defaults : Defaults) (registry : Registry) (calls : List Call) (db : Database) :
    Database :=
  calls.foldl (fun db call => (call.perform defaults registry db).2) db

end Call

end RecordListing
