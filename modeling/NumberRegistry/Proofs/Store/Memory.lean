/-
  NumberRegistry.Proofs.Store.Memory — what each operation of the store in memory does.
-/
import NumberRegistry.Proofs.Store.Sorting
import NumberRegistry.Store.Basic

namespace NumberRegistry.Store

/-- How an insert fails by its switch. -/
def Failures.insertFault (f : Failures) : Option Error :=
  if f.insert then some (.unavailable "mock insert failure") else none

/-- How a read fails by its switch. -/
def Failures.listFault (f : Failures) : Option Error :=
  if f.list then some (.unavailable "mock list failure") else none

namespace Memory

/-- The switch alone decides whether an insert fails, and how. -/
theorem insert_error_iff {m : Memory} {value : Int32} {cause : Error} :
    (m.insert value).1 = .error cause ↔ m.failures.insertFault = some cause := by
  unfold insert Failures.insertFault
  split <;> simp

theorem insertFault_of_ok {m : Memory} {value : Int32} {record : Record Nat}
    (h : (m.insert value).1 = .ok record) : m.failures.insertFault = none := by
  refine Option.eq_none_iff_forall_ne_some.mpr fun cause hc => ?_
  rw [insert_error_iff.mpr hc] at h
  cases h

theorem listSorted_error_iff {m : Memory} {cause : Error} :
    m.listSorted = .error cause ↔ m.failures.listFault = some cause := by
  unfold listSorted Failures.listFault
  split <;> simp

theorem listFault_of_ok {m : Memory} {records : List (Record Nat)} (h : m.listSorted = .ok records) :
    m.failures.listFault = none := by
  refine Option.eq_none_iff_forall_ne_some.mpr fun cause hc => ?_
  rw [listSorted_error_iff.mpr hc] at h
  cases h

@[simp] theorem failures_insert (m : Memory) (value : Int32) : (m.insert value).2.failures = m.failures := by
  unfold insert; split <;> rfl

/-- An insert that succeeds appends one record with the number. -/
theorem insert_ok {m : Memory} {value : Int32} {record : Record Nat} (h : (m.insert value).1 = .ok record) :
    record = ⟨m.nextId, value⟩ ∧ (m.insert value).2.records = m.records ++ [record] := by
  unfold insert at h ⊢
  split at h
  · cases h
  · rename_i hf
    simp only [Except.ok.injEq] at h
    subst h
    simp [hf]

/-- One that fails changes nothing. -/
theorem insert_error {m store : Memory} {value : Int32} {cause : Error}
    (h : m.insert value = (.error cause, store)) : store = m := by
  unfold insert at h
  split at h <;> cases h
  rfl

/-- A read that succeeds gives all records in their order. -/
theorem listSorted_reads {m : Memory} {records : List (Record Nat)} (h : m.listSorted = .ok records) :
    Reads m.records records := by
  unfold listSorted at h
  split at h
  · cases h
  · simp only [Except.ok.injEq] at h
    subst h
    exact reads_mergeSort m.records

theorem listSorted_ok {m : Memory} {records : List (Record Nat)} (h : m.listSorted = .ok records) :
    records.Pairwise (·.value ≤ ·.value) ∧ records.Perm m.records :=
  ⟨(listSorted_reads h).sorted, (listSorted_reads h).all⟩

@[simp] theorem failures_ping (m : Memory) : m.ping.2.failures = m.failures := rfl

@[simp] theorem records_ping (m : Memory) : m.ping.2.records = m.records := rfl

@[simp] theorem pings_ping (m : Memory) : m.ping.2.pings = m.pings + 1 := rfl

@[simp] theorem pings_insert (m : Memory) (value : Int32) : (m.insert value).2.pings = m.pings := by
  unfold insert; split <;> rfl

end Memory

end NumberRegistry.Store
