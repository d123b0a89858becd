/-
  NumberRegistry.Store.Clones — a store in memory and its clones.

  A clone gets a copy of the switches of the store it is made of. Records, identifiers
  and pings are kept once, for all of them.
-/
import NumberRegistry.Store.Basic
import NumberRegistry.Store.Operation

namespace NumberRegistry.Store

structure Clones where
  /-- The switches of the store and of each clone, the store's own first. -/
  switches : List Failures
  records : List (Record Nat) := []
  nextId : Nat := 0
  pings : Nat := 0
  deriving DecidableEq, Repr

namespace Clones

inductive Event where
  /-- One of them is cloned. -/
  | clone (origin : Nat)
  | call (clone : Nat) (operation : Operation)
  /-- All records are dropped. -/
  | clear (clone : Nat)
  deriving DecidableEq, Repr

/-- A new store, not cloned yet. -/
def opening (failures : Failures) : Clones := { switches := [failures] }

/-- The store as a clone with these switches has it. -/
def view (c : Clones) (failures : Failures) : Memory := ⟨failures, c.records, c.nextId, c.pings⟩

/-- What one of them leaves for all. -/
def keep (c : Clones) (m : Memory) : Clones :=
  { c with records := m.records, nextId := m.nextId, pings := m.pings }

/-- What the clone at a place does; there is nothing to be done by one that was not made. -/
def step (c : Clones) : Event → Option (Answer Nat) × Clones
  | .clone origin =>
    match c.switches[origin]? with
    | some failures => (none, { c with switches := c.switches ++ [failures] })
    | none => (none, c)
  | .call clone operation =>
    match c.switches[clone]? with
    | some failures =>
      let (answer, m) := perform (c.view failures) operation
      (some answer, c.keep m)
    | none => (none, c)
  | .clear clone =>
    match c.switches[clone]? with
    | some failures => (none, c.keep (c.view failures).clear)
    | none => (none, c)

def run (c : Clones) (events : List Event) : Clones := events.foldl (fun c e => (c.step e).2) c

end Clones

end NumberRegistry.Store
