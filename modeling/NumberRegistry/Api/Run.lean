/-
  NumberRegistry.Api.Run — exchanges that overlap.

  A run is a service and its exchanges. Any exchange may take the next step (`step`);
  under the clock (`finish`) it is always the one whose time comes first, the earlier in
  the list at a tie.
-/
import NumberRegistry.Api.Exchange

namespace NumberRegistry.Api

structure Run where
  service : Service
  exchanges : List Exchange

namespace Run

/-- Lets the exchange at place `i` take its next step. -/
def step (r : Run) (i : Nat) : Run :=
  match r.exchanges[i]? with
  | none => r
  | some e =>
    let (e, service) := e.advance r.service
    ⟨service, r.exchanges.set i e⟩

/-- Lets exchanges take steps in any order. -/
def steps (r : Run) (schedule : List Nat) : Run := schedule.foldl step r

/-- The place and time of the exchange that goes on first, counting places from `i`. -/
def earliest (i : Nat) : List Exchange → Option (Nat × Nat)
  | [] => none
  | e :: es =>
    match e.nextTime, earliest (i + 1) es with
    | none, rest => rest
    | some t, none => some (i, t)
    | some t, some (j, u) => if t ≤ u then some (i, t) else some (j, u)

def rank (r : Run) : Nat := r.exchanges.foldr (fun e n => e.rank + n) 0

def finishWithin : Nat → Run → Run
  | 0, r => r
  | n + 1, r =>
    match earliest 0 r.exchanges with
    | none => r
    | some (i, _) => finishWithin n (r.step i)

/-- Runs until every exchange is answered. -/
def finish (r : Run) : Run := finishWithin r.rank r

/-- When the last answer was given, or `now` if that is later. -/
def endTime (now : Nat) (r : Run) : Nat :=
  r.exchanges.foldl (fun t e => match e.phase with | .answered u _ => max t u | _ => t) now

def responses (r : Run) : List Http.Response :=
  r.exchanges.filterMap fun e => match e.phase with | .answered _ response => some response | _ => none

end Run

end NumberRegistry.Api
