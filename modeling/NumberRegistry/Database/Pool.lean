/-
  NumberRegistry.Database.Pool — connections that are kept for use.

  A call takes a connection from the pool, or opens one, and gives it back unless it was
  lost. A closed pool gives out nothing.
-/
import NumberRegistry.Database.Server

namespace NumberRegistry

namespace Database

structure Pool where
  options : ConnectOptions
  maxConnections : Nat
  /-- How many connections are open; between calls none is in use. -/
  idle : Nat := 0
  closed : Bool := false
  deriving DecidableEq, Repr

/-- An error that leaves no connection behind. -/
def Error.isLoss : Error → Bool
  | .io _ => true
  | _ => false

def MigrationError.isLoss : MigrationError → Bool
  | .execute cause => cause.isLoss
  | .executeMigration cause _ => cause.isLoss
  | _ => false

end Database

/-- A database in use: a server, and a pool of connections to it. -/
structure Database where
  pool : Database.Pool
  server : Database.Server

namespace Database

/-- Opens a connection that the pool keeps. -/
def openOne (d : Database) : Except Error Unit × Database :=
  match d.server.login d.pool.options with
  | (.ok _, server) =>
    (.ok (), { pool := { d.pool with idle := d.pool.idle + 1 }, server })
  | (.error e, server) => (.error e, { d with server })

/-- Makes sure that there is a connection to use. -/
def acquire (d : Database) : Except Error Unit × Database :=
  if d.pool.closed then (.error .poolClosed, d)
  else if 0 < d.pool.idle then (.ok (), d)
  else if d.pool.maxConnections = 0 then (.error .poolTimedOut, d)
  else d.openOne

/-- Opens connections until so many are open, as far as the pool may grow. -/
def fill (d : Database) : (count : Nat) → Except Error Unit × Database
  | 0 => (.ok (), d)
  | count + 1 =>
    if d.pool.maxConnections ≤ d.pool.idle then (.ok (), d)
    else
      match d.openOne with
      | (.ok _, d) => d.fill count
      | (.error e, d) => (.error e, d)

/-- Makes a call on a connection from the pool, which keeps it unless it is lost. -/
def use {ε α : Type} (d : Database) (lift : Error → ε) (isLoss : ε → Bool) (call : Call ε α) :
    Except ε α × Database :=
  match d.acquire with
  | (.error e, d) => (.error (lift e), d)
  | (.ok _, d) =>
    let (result, server) := call.run.run d.server
    let lost := match result with
      | .error e => isLoss e
      | .ok _ => false
    (result, { pool := { d.pool with idle := d.pool.idle - lost.toNat }, server })

/-- Closes the pool and its connections. -/
def close (d : Database) : Database := { d with pool := { d.pool with idle := 0, closed := true } }

end Database

end NumberRegistry
