/-
  NumberRegistry.Database.Connect — opening the database the service works with.

  Opening a pool sets a time by which it must be done, which the clock has to be able to
  express: it counts whole seconds in 63 bits. Then connections are opened, and the server
  has to answer once.
-/
import NumberRegistry.Database.Store
import NumberRegistry.Settings.Validate

namespace NumberRegistry

/-! ## The clock -/

/-- How many moments the clock can tell apart. -/
abbrev Instant.count : Nat := 0x8000000000000000

structure Instant where
  seconds : Nat
  lt : seconds < Instant.count
  deriving DecidableEq, Repr

def Instant.first : Instant := ⟨0, by decide⟩

/-- The moment so many seconds later, if the clock can express it. -/
def Instant.after? (i : Instant) (secs : UInt64) : Option Instant :=
  if h : i.seconds + secs.toNat < count then some ⟨i.seconds + secs.toNat, h⟩ else none

theorem Instant.after?_eq_none_iff {i : Instant} {secs : UInt64} : i.after? secs = none ↔ count ≤ i.seconds + secs.toNat := by
  unfold Instant.after?
  split
  · simp only [reduceCtorEq, false_iff]
    omega
  · simp only [true_iff]
    omega

/-! ## Opening -/

namespace Database

/-- What opening a database comes to. -/
inductive Opening where
  | opened (d : Database)
  | failed (reason : StartupError) (server : Server)
  /-- The clock cannot express until when to wait. -/
  | clockOverflow (server : Server)

/-- Opens a pool and has the server answer once; a pool that fails at that is closed. -/
def establish (d : Database) (limits : Settings.PoolLimits) : Opening :=
  match d.fill limits.minConnections.toNat with
  | (.error e, d) => .failed (.connect e) d.server
  | (.ok _, d) =>
    match d.acquire with
    | (.error e, d) => .failed (.connect e) d.server
    | (.ok _, d) =>
      match d.ping with
      | (.ok _, d) => .opened d
      | (.error (.database e), d) => .failed (.connect e) d.server
      | (.error e, d) => .failed (.store e) d.server

/-- Opens the database of a connection string, with one moment for all that is timed on the
    way. What the string holds that means nothing is given beside. -/
def connect (now : Instant) (dsn : String) (limits : Settings.PoolLimits) (server : Server) :
    Opening × List Unrecognized :=
  let (options, unknown) := ConnectOptions.parse dsn
  let opening := match options with
    | .error e => .failed (.connect e) server
    | .ok options =>
      match now.after? limits.acquireTimeout with
      | none => .clockOverflow server
      | some _ => establish ⟨{ options, maxConnections := limits.maxConnections.toNat }, server⟩ limits
  (opening, unknown)

end Database

end NumberRegistry
