import RecordListing.Settings.Address
import RecordListing.Settings.Basic

/-!
# Engines

A database is reached through the driver that its address names, or else the usual one of its kind.
Only drivers that are there and do not block will do, and each has options of its own.
-/

set_option autoImplicit false

namespace RecordListing

open Text

/-- The kind of a database and the driver that it is reached with. -/
structure Engine where
  dialect : String
  driver : String
deriving DecidableEq, Repr

/-- What is known of a driver. -/
inductive DriverState
  /-- It is there and does not block. -/
  | ready
  /-- It is there, but blocks. -/
  | blocking
  | absent
deriving DecidableEq, Repr

namespace Engine

/-- The name of the usual driver of every kind of database. -/
def usualDriver : String := "base"

/-- The drivers of every kind of database. -/
def drivers : List (String × List (String × DriverState)) := [
  ("sqlite", [("aiosqlite", .ready), ("pysqlite", .blocking), (usualDriver, .blocking),
    ("pysqlcipher", .absent)]),
  ("postgresql", ("asyncpg", .ready) :: absent ["psycopg", "psycopg_async", "psycopg2",
    "psycopg2cffi", "pg8000", usualDriver]),
  ("mysql", absent mysqlDrivers), ("mariadb", absent mysqlDrivers),
  ("oracle", absent ["cx_oracle", "oracledb", "oracledb_async", usualDriver]),
  ("mssql", absent ["pyodbc", "pymssql", "aioodbc", "mssqlpython", usualDriver])]
where
  absent (names : List String) : List (String × DriverState) := names.map (·, .absent)
  mysqlDrivers : List String := ["mysqldb", "pymysql", "aiomysql", "asyncmy", "cymysql",
    "mariadbconnector", "mysqlconnector", "pyodbc", usualDriver]

def argumentError (message : String) : Crash := ⟨.other "ArgumentError", message⟩

def badOption (option value : String) : Crash :=
  ⟨.badValue, "invalid value of " ++ option ++ ": " ++ quoted value⟩

/-! ## Options -/

def repeatedOption (option : String) : Crash := ⟨.badType, "several values of " ++ option⟩

/-- Fails if an option has a value that does not read, or several values. -/
def checkOption (address : Address) (option : String) (reads : String → Bool) : Outcome Unit :=
  match address.values option with
  | [] => .ok ()
  | [value] => if reads value then .ok () else crashWith (badOption option value)
  | _ => crashWith (repeatedOption option)

/-- Whether an option is switched on. Several values count as one that is on. -/
def isOn (address : Address) (option : String) : Outcome Bool :=
  match address.values option with
  | [] => .ok false
  | [value] =>
    match readSwitch? (trim value) with
    | some on => .ok on
    | none => crashWith (badOption option value)
  | _ => .ok true

/-- Leaves out underscores between digits, `last` being whether a digit stands in front. -/
def withoutJoints (last : Bool) : List Char → List Char
  | [] => []
  | c :: cs =>
    let joins := c == '_' && last && ((cs.head?.bind digitValue?).isSome)
    let rest := withoutJoints (digitValue? c).isSome cs
    if joins then rest else c :: rest

/-- Whether a text is a number. -/
def isNumber (s : String) : Bool :=
  let cs := trimmed s.toList
  (Decimal.ofLiteral? (withoutJoints false cs)).isSome ||
    ["inf", "infinity", "nan"].contains (lower (String.ofList (takeSign cs).2))

def isWhole (s : String) : Bool := (wholeNumberIn? s).isSome

/-- The options of a database in a file that are not passed on with its name. -/
def fileOptions : List String :=
  ["uri", "timeout", "isolation_level", "detect_types", "check_same_thread", "cached_statements"]

/-- Other options are passed on with the name of the database, which there must be then; each has
one value. -/
def checkPassedOn (address : Address) : Outcome Unit :=
  let options := address.options.filter fun entry => !fileOptions.contains entry.1
  match options.find? fun entry => (address.values entry.1).length ≠ 1 with
  | some entry => crashWith (repeatedOption entry.1)
  | none =>
    if address.database.isNone && !options.isEmpty then
      crashWith ⟨.badType, "options without the name of a database"⟩
    else .ok ()

/-- A database in a file has no host, and nobody to connect as. -/
def checkFile (address : Address) : Outcome Unit := do
  let isGiven (part : Option String) : Bool := (part.map fun s => !s.isEmpty).getD false
  if isGiven address.user || isGiven address.password || isGiven address.host ||
      (address.port.map (· != 0)).getD false then
    crashWith (argumentError "Invalid SQLite URL")
  let isUri ← isOn address "uri"
  checkOption address "timeout" isNumber
  checkOption address "detect_types" isWhole
  let _ ← isOn address "check_same_thread"
  checkOption address "cached_statements" isWhole
  if isUri then checkPassedOn address

/-- The parts of a text before and behind a colon; without a colon the second one is empty. -/
def hostAndPort (s : String) : String × String :=
  ((cutOnce ':' s.toList).map fun cut => (String.ofList cut.1, String.ofList cut.2)).getD (s, "")

/-- The hosts and ports that options name: several values of `host` may each name a port, one value
of `host` and of `port` may list several. A port that is left out is empty. -/
def listedHosts (address : Address) : Outcome (List String × List String) :=
  let ports :=
    match address.values "port" with
    | [ports] => pieces ',' ports
    | ports => ports
  match address.values "host" with
  | [] => .ok ([], ports)
  | [hosts] => .ok (pieces ',' hosts, ports)
  | hosts =>
    if hosts.all fun host => 1 < host.toList.count ':' then
      crashWith ⟨.badValue, "too many values to unpack (expected 2)"⟩
    else if ports.isEmpty then
      .ok (hosts.map fun host => (hostAndPort host).1, hosts.map fun host => (hostAndPort host).2)
    else crashWith (argumentError "Can't mix 'multihost' formats together")

/-- Whether a port is left out or zero. -/
def isNoPort (port : String) : Bool := port.isEmpty || wholeNumberIn? port == some 0

/-- Servers may be several, each with a host and a port. -/
def checkServers (address : Address) : Outcome Unit := do
  let (hosts, ports) ← listedHosts address
  if ports.any fun port => !port.isEmpty && !isWhole port then
    crashWith (argumentError "Received non-integer port arguments")
  if !ports.isEmpty && hosts.length ≠ ports.length && 1 < max hosts.length ports.length then
    crashWith (argumentError "number of hosts and ports don't match")
  if 1 < hosts.length && (hosts.any (·.isEmpty) || ports.length < hosts.length ||
      ports.any isNoPort) then
    crashWith (argumentError "All hosts and ports are required to be present")
  checkOption address "prepared_statement_cache_size" isWhole

/-! ## Engines -/

/-- The engine for an address. -/
def ofAddress (address : Address) : Outcome Engine :=
  let unknown : Outcome Engine :=
    crashWith ⟨.other "NoSuchModuleError", "Can't load plugin: " ++ address.name⟩
  let find (dialect driver : String) : Outcome Engine :=
    match (drivers.lookup dialect).bind (·.lookup driver) with
    | none => unknown
    | some .absent => crashWith ⟨.other "ModuleNotFoundError", "No module for " ++ address.name⟩
    | some state => do
      if dialect = "sqlite" then checkFile address else checkServers address
      if state = .blocking then
        crashWith ⟨.other "InvalidRequestError", "The loaded '" ++ driver ++ "' is not async."⟩
      return ⟨dialect, driver⟩
  if !(address.values "plugin").isEmpty then unknown
  else
    match pieces '+' address.name with
    | [dialect] => find dialect usualDriver
    | [dialect, driver] => find dialect driver
    | _ => crashWith ⟨.badValue, "too many values to unpack (expected 2)"⟩

/-- The engine for a database. -/
def ofUrl (url : String) : Outcome Engine :=
  let url := Settings.asyncUrl url
  if url.isEmpty then crashWith ⟨.badState, "DATABASE_URL_APP is required"⟩
  else do
    let address ← Address.read url
    ofAddress address

end Engine

end RecordListing
