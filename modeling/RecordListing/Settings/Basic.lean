import RecordListing.Settings.Field
import RecordListing.Query.Listing
import RecordListing.Text.Case

/-!
# Settings

What the program is told about its surroundings. Values given directly win over those of the
environment; all faulty fields are reported together.
-/

set_option autoImplicit false

namespace RecordListing

open Text

inductive Environment
  | onSite | testing | production
deriving DecidableEq, Repr

namespace Environment

def all : List Environment := [.onSite, .testing, .production]

def name : Environment → String
  | .onSite => "local"
  | .testing => "test"
  | .production => "prod"

/-- The environment of this name, in any case of letters. -/
def ofName? (name : String) : Option Environment := all.find? (·.name = lower name)

end Environment

structure Settings where
  environment : Environment := .onSite
  appName : String := "fieldops-api"
  logLevel : String := "INFO"
  observed : Bool := true
  structuredLogs : Bool := true
  databaseUrl : String
  databaseEcho : Bool := false
  corsOrigins : String := "http://localhost:3000,http://localhost:5173"
  listing : Defaults := {}

namespace Settings

/-- The origins that may call from a browser. -/
def origins (settings : Settings) : List String :=
  ((pieces ',' settings.corsOrigins).map trim).filter fun origin => !origin.isEmpty

/-- What follows `start` in a text. -/
def afterText? (start s : String) : Option String :=
  (after? start.toList s.toList).map String.ofList

/-- The database with a driver that does not block. -/
def asyncUrl (url : String) : String :=
  match afterText? "postgresql://" url with
  | some rest => "postgresql+asyncpg://" ++ rest
  | none =>
    match afterText? "postgresql+psycopg://" url with
    | some rest => "postgresql+asyncpg://" ++ rest
    | none => url

/-! ## Reading -/

/-- Where settings come from: values given directly, and the variables of the environment. Values
under names of their own say how the variables are read. -/
structure Sources where
  values : List (String × Value)
  environment : List (String × String)

namespace Sources

/-- What the name of every variable begins with. -/
def variableStart (sources : Sources) : String :=
  match sources.values.lookup "_env_prefix" with
  | some (.text start) => start
  | _ => ""

/-- Whether a value under a name of its own switches something on. -/
def hasSwitch (sources : Sources) (name : String) : Bool :=
  ((sources.values.lookup name).map fun value => !value.isNothing).getD false

/-- The value of a field that is given directly: under its name, or else the last one under its name
in other cases of letters. -/
def given? (sources : Sources) (field : String) : Option Value :=
  (sources.values.lookup field).orElse fun _ =>
    (sources.values.reverse.find? fun entry => lower entry.1 = field).map (·.2)

/-- The last variable that gives a field. The case of letters in names does not count, unless the
sources say so. -/
def fromEnvironment? (sources : Sources) (field : String) : Option String :=
  let name := sources.variableStart ++ field
  let isIt (entry : String × String) : Bool :=
    if sources.hasSwitch "_case_sensitive" then entry.1 == name else lower entry.1 == lower name
  let kept := sources.environment.filter fun entry =>
    !(sources.hasSwitch "_env_ignore_empty" && entry.2.isEmpty)
  (kept.reverse.find? isIt).map (·.2)

/-- The value of a field; values given directly win. -/
def find? (sources : Sources) (field : String) : Option Value :=
  (sources.given? field).orElse fun _ => (sources.fromEnvironment? field).map .text

end Sources

/-- What has been read, or all faults found on the way. -/
abbrev Checked (α : Type) : Type := Except (List LocatedFault) α

/-- Reads on also after a fault, so that all of them are found. -/
def Checked.and {α β : Type} (f : Checked (α → β)) (x : Checked α) : Checked β :=
  match f, x with
  | .ok f, .ok x => .ok (f x)
  | .error faults, .error more => .error (faults ++ more)
  | .error faults, .ok _ | .ok _, .error faults => .error faults

/-- A field that is read from its value, or that has a default. -/
def field {α : Type} (sources : Sources) (name : String) (read : Value → Except SettingFault α)
    (default : Option α) : Checked α :=
  match sources.find? name, default with
  | some value, _ =>
    match read value with
    | .ok x => .ok x
    | .error fault => .error [⟨some name, fault⟩]
  | none, some x => .ok x
  | none, none => .error [⟨some name, .missing⟩]

def readEnvironment (value : Value) : Except SettingFault Environment :=
  let name := value.toText
  match Environment.ofName? name with
  | some environment => .ok environment
  | none =>
    .error (.refused ("app_env must be one of " ++
      (Value.list (Environment.all.map fun e => .text e.name)).shown ++ ", got '" ++ name ++ "'"))

def readPageSize (value : Value) : Except SettingFault Int :=
  match readInt value with
  | .error fault => .error fault
  | .ok n =>
    if 1 ≤ n then .ok n
    else .error (.refused "query_default_page_size must be at least 1")

/-- All fields, in the order in which their faults are reported. -/
def ofFields (sources : Sources) : Checked Settings :=
  let make environment appName logLevel observed structuredLogs databaseUrl databaseEcho corsOrigins
      pageSize sortField sentinel : Settings :=
    { environment, appName, logLevel, observed, structuredLogs, databaseUrl, databaseEcho,
      corsOrigins, listing := ⟨some pageSize, some sortField, some sentinel⟩ }
  let usual : Settings := { databaseUrl := "" }
  let start : Checked _ := .ok make
  let withEnvironment :=
    start.and (field sources "app_env" readEnvironment (some usual.environment))
  let withLogs :=
    ((withEnvironment.and (field sources "app_name" readText (some usual.appName))).and
      (field sources "app_log_level" readText (some usual.logLevel))).and
      (field sources "observability_enabled" readBool (some usual.observed))
  let withDatabase :=
    ((withLogs.and
      (field sources "observability_structured_logs" readBool (some usual.structuredLogs))).and
      (field sources "database_url_app" readText none)).and
      (field sources "database_echo" readBool (some usual.databaseEcho))
  let withOrigins :=
    withDatabase.and (field sources "cors_origins" readText (some usual.corsOrigins))
  ((withOrigins.and
    (field sources "query_default_page_size" readPageSize usual.listing.pageSize)).and
    (field sources "query_default_sort_field" readText usual.listing.sortField)).and
    (field sources "query_null_sentinel" readText usual.listing.sentinel)

/-- The first rule of production that the settings break. -/
def productionFault? (settings : Settings) : Option String :=
  if settings.environment ≠ .production then none
  else if (afterText? "postgresql" settings.databaseUrl).isNone then
    some "DATABASE_URL_APP must use a postgresql scheme in production"
  else
    (settings.origins.find? fun origin =>
      occursIn "localhost".toList origin.toList || occursIn "127.0.0.1".toList origin.toList).map
      ("CORS origins must not contain localhost in production: " ++ ·)

/-- Reads the settings. -/
def read (sources : Sources) : Checked Settings :=
  match ofFields sources with
  | .error faults => .error faults
  | .ok settings =>
    match settings.productionFault? with
    | some reason => .error [⟨none, .refused reason⟩]
    | none => .ok settings

/-- Whether the name of the environment is given as something that has no letters. -/
def namesNoText (sources : Sources) : Bool :=
  match sources.find? "app_env" with
  | none | some (.text _) | some (.member _) => false
  | some _ => true

end Settings

end RecordListing
