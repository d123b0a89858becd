/-
  NumberRegistry.Settings.Basic — what the service can be told through its environment.

  Eleven fields, each with an environment variable of the same name in capitals. All have
  defaults but the connection string. Times are whole seconds.
-/
import NumberRegistry.Text.Decimal
import NumberRegistry.Text.Quoted

namespace NumberRegistry

open Text

structure Settings where
  postgresDsn : Option String := none
  poolMaxConnections : UInt32 := 60
  poolMinConnections : UInt32 := 10
  poolMaxLifetimeSecs : UInt64 := 120
  poolMaxIdleSecs : UInt64 := 20
  poolHealthCheckSecs : UInt64 := 30
  poolAcquireTimeoutSecs : UInt64 := 5
  serverAddr : String := "0.0.0.0:8080"
  requestTimeoutSecs : UInt64 := 30
  shutdownTimeoutSecs : UInt64 := 10
  logLevel : String := "info"
  deriving DecidableEq, Repr

namespace Settings

inductive Field where
  | postgresDsn
  | poolMaxConnections
  | poolMinConnections
  | poolMaxLifetimeSecs
  | poolMaxIdleSecs
  | poolHealthCheckSecs
  | poolAcquireTimeoutSecs
  | serverAddr
  | requestTimeoutSecs
  | shutdownTimeoutSecs
  | logLevel
  deriving DecidableEq, Repr

def Field.all : List Field :=
  [.postgresDsn, .poolMaxConnections, .poolMinConnections, .poolMaxLifetimeSecs,
    .poolMaxIdleSecs, .poolHealthCheckSecs, .poolAcquireTimeoutSecs, .serverAddr,
    .requestTimeoutSecs, .shutdownTimeoutSecs, .logLevel]

theorem Field.mem_all (f : Field) : f ∈ Field.all := by cases f <;> decide

def Field.name : Field → String
  | .postgresDsn => "postgres_dsn"
  | .poolMaxConnections => "pool_max_connections"
  | .poolMinConnections => "pool_min_connections"
  | .poolMaxLifetimeSecs => "pool_max_lifetime_secs"
  | .poolMaxIdleSecs => "pool_max_idle_secs"
  | .poolHealthCheckSecs => "pool_health_check_secs"
  | .poolAcquireTimeoutSecs => "pool_acquire_timeout_secs"
  | .serverAddr => "server_addr"
  | .requestTimeoutSecs => "request_timeout_secs"
  | .shutdownTimeoutSecs => "shutdown_timeout_secs"
  | .logLevel => "rust_log"

/-- The small form of a letter, for the letters whose small form is one of a–z: the
    capitals A–Z and the Kelvin sign. -/
def smallLetter (c : Char) : Char :=
  if 'A' ≤ c ∧ c ≤ 'Z' then Char.ofNat (c.toNat + 32) else if c = '\u212A' then 'k' else c

/-- The field a variable sets: case does not matter in its name. -/
def Field.ofVariable? (key : String) : Option Field :=
  Field.all.find? fun f => key.toList.map smallLetter = f.name.toList

/-- Why an environment cannot be read. -/
inductive EnvironmentError where
  | missingValue (field : String)
  | duplicate (field : Field)
  | badNumber (cause : Decimal.ParseError) (value key : String)
  | other (reason : String)
  deriving DecidableEq, Repr

namespace EnvironmentError

/-- What a fault other than a missing value says. -/
def reason : EnvironmentError → String
  | .missingValue field => field
  | .duplicate field => "duplicate field \x60" ++ field.name ++ "\x60"
  | .badNumber cause value key =>
    cause.message ++ " while parsing value '" ++ value ++ "' provided by " ++ key
  | .other text => text

def message (e : EnvironmentError) : String :=
  match e with
  | .missingValue field => "missing value for field " ++ field
  | _ => e.reason

/-- The error as a term: its case and what the case holds. -/
def term (e : EnvironmentError) : String :=
  match e with
  | .missingValue field => "MissingValue(" ++ Quoted.encode field ++ ")"
  | _ => "Custom(" ++ Quoted.encode e.reason ++ ")"

end EnvironmentError

/-- Why there are no settings to work with. -/
inductive Error where
  | environment (cause : EnvironmentError)
  | missingDsn
  | invalidAddress (addr reason : String)
  | invalidPool (reason : String)
  | zeroTimeout (name : String)
  deriving DecidableEq, Repr

namespace Error

def message : Error → String
  | .environment cause => "failed to read environment: " ++ cause.message
  | .missingDsn => "POSTGRES_DSN is not set"
  | .invalidAddress addr reason => "invalid SERVER_ADDR " ++ Quoted.encode addr ++ ": " ++ reason
  | .invalidPool reason => "invalid pool settings: " ++ reason
  | .zeroTimeout name => name ++ " must be greater than zero"

/-- The messages of the errors behind this one, outermost first. -/
def sources : Error → List String
  | .environment cause => [cause.message]
  | _ => []

def term : Error → String
  | .environment cause => "Env(" ++ cause.term ++ ")"
  | .missingDsn => "MissingDsn"
  | .invalidAddress addr reason =>
    "InvalidAddr \x7b addr: " ++ Quoted.encode addr ++ ", reason: " ++ Quoted.encode reason ++
      " \x7d"
  | .invalidPool reason => "InvalidPool(" ++ Quoted.encode reason ++ ")"
  | .zeroTimeout name => "ZeroTimeout \x7b name: " ++ Quoted.encode name ++ " \x7d"

end Error

end Settings

end NumberRegistry
