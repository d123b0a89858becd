/-
  NumberRegistry.Store.Basic — what a store of numbers does, and a store in memory.

  A store keeps records and gives each an identifier of its own. The operations are
  independent of each other: nothing keeps two calls together.

  In memory the records stand in the order they were inserted. Reading sorts them by value
  and keeps that order among equal values. Each operation can be made to fail; a ping
  counts even then.
-/
import NumberRegistry.Failure

namespace NumberRegistry

namespace Store

/-- A stored number with the identifier the store gave it. -/
structure Record (ι : Type) where
  id : ι
  value : Int32
  deriving DecidableEq, Repr

/-- Orders records by value alone. -/
def Record.le {ι : Type} (a b : Record ι) : Bool := decide (a.value ≤ b.value)

end Store

/-- The states of a store, and what each operation answers and leaves. -/
class NumberStore (σ : Type) (ι : outParam Type) where
  insert : σ → Int32 → Except Store.Error (Store.Record ι) × σ
  /-- All records in ascending order of their values. -/
  listSorted : σ → Except Store.Error (List (Store.Record ι)) × σ
  ping : σ → Except Store.Error Unit × σ

/-! ## In memory -/

namespace Store

structure Failures where
  insert : Bool := false
  list : Bool := false
  ping : Bool := false
  deriving DecidableEq, Repr

structure Memory where
  failures : Failures := {}
  records : List (Record Nat) := []
  /-- The identifier of the next record; it is never given twice. -/
  nextId : Nat := 0
  pings : Nat := 0
  deriving DecidableEq, Repr

namespace Memory

def insert (m : Memory) (value : Int32) : Except Error (Record Nat) × Memory :=
  if m.failures.insert then (.error (.unavailable "mock insert failure"), m)
  else
    let record : Record Nat := ⟨m.nextId, value⟩
    (.ok record, { m with records := m.records ++ [record], nextId := m.nextId + 1 })

def listSorted (m : Memory) : Except Error (List (Record Nat)) :=
  if m.failures.list then .error (.unavailable "mock list failure")
  else .ok (m.records.mergeSort Record.le)

def ping (m : Memory) : Except Error Unit × Memory :=
  (if m.failures.ping then .error (.unavailable "mock ping failure") else .ok (),
    { m with pings := m.pings + 1 })

def clear (m : Memory) : Memory := { m with records := [] }

instance : NumberStore Memory Nat where
  insert := insert
  listSorted m := (m.listSorted, m)
  ping := ping

end Memory

end Store

end NumberRegistry
