/-
  NumberRegistry.Settings.Validate — which settings the service starts with, what follows
  from them, and what of them may be shown.
-/
import NumberRegistry.Net.SocketAddress
import NumberRegistry.Settings.Basic
import NumberRegistry.Text.Classes
import NumberRegistry.Url.Resolve

namespace NumberRegistry.Settings

open Text Net

/-- The connection string without surrounding white space; a blank one is missing. -/
def dsn (s : Settings) : Except Error String :=
  match s.postgresDsn.map fun d => trim d.toList with
  | some (c :: cs) => .ok (String.ofList (c :: cs))
  | _ => .error .missingDsn

/-- A bare `:port` binds every interface. -/
def expandAddress : List Char → List Char
  | ':' :: port => "0.0.0.0:".toList ++ port
  | addr => addr

def bindAddress (s : Settings) : Except Error SocketAddress :=
  match SocketAddress.parse? (expandAddress (trim s.serverAddr.toList)) with
  | some addr => .ok addr
  | none => .error (.invalidAddress s.serverAddr "invalid socket address syntax")

/-- The times that must not be zero, in the order they are checked. -/
def timeouts (s : Settings) : List (String × UInt64) :=
  [("POOL_MAX_LIFETIME_SECS", s.poolMaxLifetimeSecs),
    ("POOL_MAX_IDLE_SECS", s.poolMaxIdleSecs),
    ("POOL_HEALTH_CHECK_SECS", s.poolHealthCheckSecs),
    ("POOL_ACQUIRE_TIMEOUT_SECS", s.poolAcquireTimeoutSecs),
    ("REQUEST_TIMEOUT_SECS", s.requestTimeoutSecs),
    ("SHUTDOWN_TIMEOUT_SECS", s.shutdownTimeoutSecs)]

def validate (s : Settings) : Except Error Unit := do
  let _ ← s.dsn
  let _ ← s.bindAddress
  if s.poolMaxConnections = 0 then
    throw (.invalidPool "POOL_MAX_CONNECTIONS must be at least 1")
  if s.poolMaxConnections < s.poolMinConnections then
    throw (.invalidPool ("POOL_MIN_CONNECTIONS (" ++ Decimal.ofNat s.poolMinConnections.toNat ++
      ") exceeds POOL_MAX_CONNECTIONS (" ++ Decimal.ofNat s.poolMaxConnections.toNat ++ ")"))
  match s.timeouts.find? (·.2 = 0) with
  | some (name, _) => throw (.zeroTimeout name)
  | none => return ()

/-- The limits of a connection pool; times in seconds. -/
structure PoolLimits where
  maxConnections : UInt32
  minConnections : UInt32
  maxLifetime : UInt64
  maxIdle : UInt64
  healthCheckPeriod : UInt64
  acquireTimeout : UInt64
  deriving DecidableEq, Repr

def poolLimits (s : Settings) : PoolLimits where
  maxConnections := s.poolMaxConnections
  minConnections := s.poolMinConnections
  maxLifetime := s.poolMaxLifetimeSecs
  maxIdle := s.poolMaxIdleSecs
  healthCheckPeriod := s.poolHealthCheckSecs
  acquireTimeout := s.poolAcquireTimeoutSecs

/-- The limits for a run that only migrates: one connection, none kept idle. -/
def PoolLimits.single (p : PoolLimits) : PoolLimits :=
  { p with maxConnections := 1, minConnections := 0 }

/-- The text of a time in seconds. Nothing is shown in the smallest unit. -/
def durationText (secs : UInt64) : String :=
  if secs = 0 then "0ns" else Decimal.ofNat secs.toNat ++ "s"

/-! ## What may be shown -/

/-- A connection string with its password masked. One that is no URL may hold a password
    anywhere and is not shown at all. -/
def redact (dsn : String) : String :=
  match Url.parse dsn with
  | .ok url => (if url.password?.isSome then url.withPassword "****" else url).text
  | .error _ => "<unparsed dsn>"

def redactedDsn (s : Settings) : Option String := s.dsn.toOption.map redact

end NumberRegistry.Settings
