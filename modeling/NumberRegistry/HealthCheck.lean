/-
  NumberRegistry.HealthCheck — pinging the store at regular times.

  The check waits for a tick, pings, and waits for the next. Ticks come at regular times,
  the first of them at the start, which is let go by; a tick that comes while a ping is
  under way is there when the ping is answered. A failed ping is counted and changes
  nothing else. Without a period there is no check.
-/
import NumberRegistry.Metrics
import NumberRegistry.Store.Script

namespace NumberRegistry

open Store

/-- Ticks at regular times. -/
structure Ticker where
  period : Nat
  /-- When the next tick comes. -/
  due : Nat := 0

/-- Waits for the next tick from the time `t` on: when the wait is over, and what is left.
    A tick that has come by then is not lost, and those after it keep their times. -/
def Ticker.tick (ticker : Ticker) (t : Nat) : Nat × Ticker :=
  (max ticker.due t, { ticker with due := ticker.due + ticker.period })

structure HealthCheck where
  period : Nat
  /-- The first tick is let go by: the store was pinged at the start. -/
  ticker : Ticker := (Ticker.tick { period } 0).2
  now : Nat := 0
  /-- How many pings have started. -/
  started : Nat := 0
  /-- The ping under way: when its call returns, and how it fails if it does. -/
  current : Option (Delay × Option Store.Error) := none
  /-- When the last ping was answered. -/
  free : Nat := 0
  stopped : Bool := false
  store : Memory := {}
  script : Script := {}
  metrics : Metrics := {}

namespace HealthCheck

def finished (h : HealthCheck) : Bool := h.stopped || h.period = 0

/-- When the next ping starts, if none is under way. -/
def nextStart (h : HealthCheck) : Nat := (h.ticker.tick h.free).1

def startPing (h : HealthCheck) : HealthCheck :=
  let (plan, script) := h.script.takePing
  { h with
    ticker := (h.ticker.tick h.free).2
    started := h.started + 1
    current := some (plan.delay.map (h.nextStart + ·), plan.failure)
    script }

def countResult (h : HealthCheck) (failed : Bool) : HealthCheck :=
  if failed then { h with metrics := h.metrics.countHealthFailure } else h

/-- The ping under way returns at `time`. -/
def endPing (h : HealthCheck) (time : Nat) (failure : Option Store.Error) : HealthCheck :=
  let h := { h with current := none, free := time }
  match failure with
  | some _ => h.countResult true
  | none =>
    let (result, store) := h.store.ping
    { h with store }.countResult (!result.isOk)

/-- The next thing to happen, and when. -/
def next? (h : HealthCheck) : Option (Nat × HealthCheck) :=
  if h.finished then none
  else
    match h.current with
    | none => some (h.nextStart, h.startPing)
    | some (some t, failure) => some (t, h.endPing t failure)
    | some (none, _) => none

/-- Lets at most `fuel` things happen up to the time `t`. -/
def advanceWithin (t : Nat) : (fuel : Nat) → HealthCheck → HealthCheck
  | 0, h => h
  | fuel + 1, h =>
    match h.next? with
    | some (u, after) => if u ≤ t then advanceWithin t fuel after else h
    | none => h

/-- Lets `ms` milliseconds pass. Until a time `t` there are `t / period` ticks after the
    first, each with one ping, which starts once and is answered at most once. -/
def sleep (ms : Nat) (h : HealthCheck) : HealthCheck :=
  let t := h.now + ms
  { advanceWithin t (2 * (t / h.period + 1)) h with now := t }

/-- Stops the check; a ping under way is dropped. -/
def abort (h : HealthCheck) : HealthCheck := { h with stopped := true, current := none }

end HealthCheck

end NumberRegistry
