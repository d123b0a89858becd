/-
  NumberRegistry.Store.Script — how long a store's calls take and which of them fail.

  Each kind of call has a list of delays and a list of failures; a call takes the next
  entry of both when it starts, and nothing once a list is used up (`planOf`). A store in
  memory can follow a script (`Scripted`).
-/
import NumberRegistry.Store.Basic

namespace NumberRegistry.Store

/-- A time in milliseconds; `none` is for ever. -/
abbrev Delay := Option Nat

structure Script where
  insertDelays : List Delay := []
  listDelays : List Delay := []
  pingDelays : List Delay := []
  insertFailures : List (Option Error) := []
  listFailures : List (Option Error) := []
  pingFailures : List (Option Error) := []

/-- What a script holds for one call. -/
structure Plan where
  delay : Delay
  failure : Option Error

namespace Script

def plan (delays : List Delay) (failures : List (Option Error)) : Plan :=
  ⟨delays.head?.getD (some 0), failures.head?.getD none⟩

def takeInsert (s : Script) : Plan × Script :=
  (plan s.insertDelays s.insertFailures,
    { s with insertDelays := s.insertDelays.drop 1, insertFailures := s.insertFailures.drop 1 })

def takeList (s : Script) : Plan × Script :=
  (plan s.listDelays s.listFailures,
    { s with listDelays := s.listDelays.drop 1, listFailures := s.listFailures.drop 1 })

def takePing (s : Script) : Plan × Script :=
  (plan s.pingDelays s.pingFailures,
    { s with pingDelays := s.pingDelays.drop 1, pingFailures := s.pingFailures.drop 1 })

end Script

inductive Kind where
  | insert
  | list
  | ping
  deriving DecidableEq, Repr

namespace Script

/-- What a script holds for the `k`-th call of a kind, counted from 0. -/
def planOf (s : Script) : Kind → Nat → Plan
  | .insert, k => plan (s.insertDelays.drop k) (s.insertFailures.drop k)
  | .list, k => plan (s.listDelays.drop k) (s.listFailures.drop k)
  | .ping, k => plan (s.pingDelays.drop k) (s.pingFailures.drop k)

theorem planOf_takeInsert (s : Script) (kind : Kind) (k : Nat) :
    s.takeInsert.2.planOf kind k = s.planOf kind (if kind = .insert then k + 1 else k) := by
  cases kind <;> simp [planOf, takeInsert]

theorem planOf_takeList (s : Script) (kind : Kind) (k : Nat) :
    s.takeList.2.planOf kind k = s.planOf kind (if kind = .list then k + 1 else k) := by
  cases kind <;> simp [planOf, takeList]

theorem planOf_takePing (s : Script) (kind : Kind) (k : Nat) :
    s.takePing.2.planOf kind k = s.planOf kind (if kind = .ping then k + 1 else k) := by
  cases kind <;> simp [planOf, takePing]

end Script

/-- A store in memory, and the script it follows. -/
structure Scripted where
  memory : Memory := {}
  script : Script := {}

namespace Scripted

/-- A call fails if the script says so, and is one of the store in memory otherwise. -/
def call {α : Type} (take : Script → Plan × Script) (operation : Memory → Except Error α × Memory)
    (s : Scripted) : Except Error α × Scripted :=
  let (plan, script) := take s.script
  match plan.failure with
  | some cause => (.error cause, ⟨s.memory, script⟩)
  | none =>
    let (result, memory) := operation s.memory
    (result, ⟨memory, script⟩)

instance : NumberStore Scripted Nat where
  insert s value := s.call Script.takeInsert (·.insert value)
  listSorted s := s.call Script.takeList fun m => (m.listSorted, m)
  ping s := s.call Script.takePing Memory.ping

end Scripted

end NumberRegistry.Store
