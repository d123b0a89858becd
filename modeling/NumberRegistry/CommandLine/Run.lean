/-
  NumberRegistry.CommandLine.Run — what the program does when it is called.

  It reads its arguments, adds the nearest environment file to its environment, and does
  what it is asked to. Serving ends here as soon as the server is ready for connections.
-/
import NumberRegistry.CommandLine.ConfigCheck
import NumberRegistry.CommandLine.Reader
import NumberRegistry.Database.Connect
import NumberRegistry.HealthCheck
import NumberRegistry.Log.Filter

namespace NumberRegistry.CommandLine

/-- What the program finds around it. -/
structure Surroundings where
  environment : Environment
  /-- The text of the nearest environment file. -/
  envFile : Option String
  now : Instant
  server : Database.Server

/-- How a command ends. -/
inductive Ending where
  | done
  | failed (complaint : Complaint)
  /-- The clock could not express until when to wait for the database. -/
  | clockOverflow
  | serving (addr : Net.SocketAddress) (settings : Settings)

/-- What a command does: what it logs and writes, how it ends, and what it leaves of the
    database server. -/
structure Outcome where
  events : List Log.Event := []
  lines : List String := []
  ending : Ending
  server : Database.Server

namespace Run

/-- The part of the program an event of its own comes from. -/
def mainTarget : String := "sorted_numbers"

def storeTarget : String := "sorted_numbers::store::postgres"

def info (message : String) : Log.Event := { level := .info, target := mainTarget, message }

def failure (message reason : String) : Log.Event :=
  { level := .error, target := mainTarget, message, fields := [("error", .text reason)] }

/-- Loads settings, with another address if one is given, and validates them. -/
def loadSettings (w : Surroundings) (addr : Option String) :
    List Log.Event × Except Settings.Error Settings :=
  let start := info "Loading configuration..."
  match (Settings.load w.envFile w.environment).1 with
  | .error e => ([start, failure "Failed to load configuration" e.message], .error e)
  | .ok s =>
    let s := addr.elim s fun a => { s with serverAddr := a }
    match s.validate with
    | .error e => ([start, failure "Invalid configuration" e.message], .error e)
    | .ok _ => ([start], .ok s)

def settingsComplaint (e : Settings.Error) : Complaint := ⟨e.message, e.sources⟩

def startupComplaint (e : StartupError) : Complaint := ⟨e.message, e.sources⟩

def warning (u : Database.Unrecognized) : Log.Event where
  level := .warn
  target := "sqlx_postgres::options::parse"
  message := "ignoring unrecognized connect parameter"
  fields := [("key", .text u.1), ("value", .text u.2)]

def poolOpened (limits : Settings.PoolLimits) : Log.Event where
  level := .info
  target := storeTarget
  message := "PostgreSQL pool initialized"
  fields := [("max_connections", .number limits.maxConnections.toNat),
    ("min_connections", .number limits.minConnections.toNat)]

def poolClosed : Log.Event :=
  { level := .info, target := storeTarget, message := "PostgreSQL pool closed" }

def migrationsDone : Log.Event :=
  { level := .debug, target := storeTarget, message := "Database migrations completed" }

def migrationsFailed (e : StartupError) : Log.Event := failure "Failed to apply migrations" e.message

/-- Opens the database and goes on with it. -/
def withDatabase (w : Surroundings) (events : List Log.Event) (dsn : String)
    (limits : Settings.PoolLimits) (go : List Log.Event → Database → Outcome) : Outcome :=
  let (opening, unknown) := Database.connect w.now dsn limits w.server
  let events := events ++ unknown.map warning
  match opening with
  | .opened d => go (events ++ [poolOpened limits]) d
  | .failed e server =>
    { events := events ++ [failure "Failed to connect to database" e.message]
      ending := .failed (startupComplaint e), server }
  | .clockOverflow server => { events, ending := .clockOverflow, server }

/-- Applies migrations to an open database and closes it. -/
def migrateAndClose (events : List Log.Event) (d : Database) : Outcome :=
  match d.migrate with
  | (.ok _, d) =>
    { events := events ++ [migrationsDone, poolClosed, info "Migrations applied"]
      ending := .done, server := d.close.server }
  | (.error e, d) =>
    { events := events ++ [poolClosed, migrationsFailed e]
      ending := .failed (startupComplaint e), server := d.close.server }

def migrate (w : Surroundings) : Outcome :=
  let (events, loaded) := loadSettings w none
  match loaded.bind fun s => s.dsn.map (s, ·) with
  | .error e => { events, ending := .failed (settingsComplaint e), server := w.server }
  | .ok (s, dsn) => withDatabase w events dsn s.poolLimits.single migrateAndClose

/-- The check of the store that runs beside the server; it counts in milliseconds. -/
def healthCheck (s : Settings) : HealthCheck := { period := 1000 * s.poolLimits.healthCheckPeriod.toNat }

def startServing (s : Settings) (addr : Net.SocketAddress) (events : List Log.Event)
    (d : Database) : Outcome :=
  let started : Log.Event :=
    { info "Starting server" with fields := [("address", .text addr.text)] }
  { events := events ++ [started], ending := .serving addr s, server := d.server }

/-- Goes on with an open database: applies migrations if that is asked for, and serves. -/
def prepareServing (s : Settings) (addr : Net.SocketAddress) (migrateFirst : Bool)
    (events : List Log.Event) (d : Database) : Outcome :=
  let events := events ++ [info "Successfully connected to database"]
  if migrateFirst then
    match d.migrate with
    | (.ok _, d) => startServing s addr (events ++ [migrationsDone, info "Migrations applied"]) d
    | (.error e, d) =>
      { events := events ++ [migrationsFailed e]
        ending := .failed (startupComplaint e), server := d.server }
  else startServing s addr events d

def serve (w : Surroundings) (addr : Option String) (migrateFirst : Bool) : Outcome :=
  let (events, loaded) := loadSettings w addr
  let ready : Except Settings.Error (Settings × Net.SocketAddress × String) := do
    let s ← loaded
    return (s, ← s.bindAddress, ← s.dsn)
  match ready with
  | .error e => { events, ending := .failed (settingsComplaint e), server := w.server }
  | .ok (s, addr, dsn) => withDatabase w events dsn s.poolLimits (prepareServing s addr migrateFirst)

def checkConfig (w : Surroundings) : Outcome :=
  let (lines, complaint) := ConfigCheck.report (Settings.load w.envFile w.environment).1
  { lines, ending := complaint.elim .done .failed, server := w.server }

def command (w : Surroundings) : Command → Outcome
  | .serve addr migrateFirst => serve w addr migrateFirst
  | .migrate => migrate w
  | .checkConfig => checkConfig w

/-- What reaches the log: all of it about the program itself if it is to be verbose, and
    otherwise what the environment says. -/
def filter (i : Invocation) (env : Environment) : Log.Filter :=
  if i.verbose then
    [{ target := "sorted_numbers", level := some .debug }, { level := some .info }]
  else ((env.lookup "RUST_LOG").bind Log.Filter.parse?).getD (.upTo .info)

end Run

/-- What a call of the program comes to: its exit status and what it writes. -/
structure Report where
  exit : Nat
  output : String
  errors : String
  server : Database.Server

namespace Report

def ofStop (server : Database.Server) : Stop → Report
  | .help scope => ⟨0, scope.helpText, "", server⟩
  | .version => ⟨0, versionLine, "", server⟩
  | .fault f => ⟨2, "", f.message, server⟩

def ofEnding : Ending → Nat × String
  | .done | .serving _ _ => (0, "")
  | .failed complaint => (1, complaint.text)
  | .clockOverflow => (101, "overflow when adding duration to instant\n")

end Report

/-- Calls the program with arguments; `time` is written where the log has a time. -/
def run (args : List String) (w : Surroundings) (time : String) : Report :=
  match parse args with
  | .error stop => Report.ofStop w.server stop
  | .ok i =>
    let w := { w with environment := EnvFile.loadNearest w.envFile w.environment }
    let outcome := Run.command w i.command
    let admitted := outcome.events.filter (Run.filter i w.environment).admits
    let format := if i.logJson then .json else .plain
    let log := String.join (admitted.map fun e => e.line format time)
    let lines := String.join (outcome.lines.map (· ++ "\n"))
    let (exit, errors) := Report.ofEnding outcome.ending
    ⟨exit, log ++ lines, errors, outcome.server⟩

end NumberRegistry.CommandLine
