/-
  NumberRegistry.Proofs.Store.Agreement — the two stores give the same answers.

  One store is a database in use on a server that answers, with an empty table; the other
  is a new store in memory. Both are called in the same way, one call after another
  (`performAll`). The identifiers they give differ, and `name` says which stand for each
  other: that of the n-th record in memory for that of the n-th row from the first.

  Proved:
  - `Agree.perform`: stores that agree give one answer to each call, up to the
    identifiers, and agree after it.
  - `stores_agree`: one naming of identifiers serves for calls of any number and order.
-/
import NumberRegistry.Proofs.Database.Store
import NumberRegistry.Proofs.Store.Clones

namespace NumberRegistry.Store

open Database (RowId)

/-! ## Renamed identifiers -/

variable {ι κ : Type}

def Record.rename (name : ι → κ) (r : Record ι) : Record κ := ⟨name r.id, r.value⟩

/-- The answer with other identifiers in it. -/
def Answer.rename (name : ι → κ) : Answer ι → Answer κ
  | .record result => .record (result.map (·.rename name))
  | .records result => .records (result.map (·.map (Record.rename name)))
  | .pong result => .pong result
  | .numbers result => .numbers result

/-- The call did what it was to do. -/
def Answer.Succeeds : Answer ι → Prop
  | .record result => result.isOk
  | .records result => result.isOk
  | .pong result => result.isOk
  | .numbers result => result.isOk

theorem map_value_rename (name : ι → κ) (records : List (Record ι)) :
    (records.map (Record.rename name)).map (·.value) = records.map (·.value) := by
  simp [Record.rename]

/-- Identifiers have no part in the order of records. -/
theorem mergeSort_rename (name : ι → κ) (records : List (Record ι)) :
    (records.map (Record.rename name)).mergeSort Record.le =
      (records.mergeSort Record.le).map (Record.rename name) :=
  (List.map_mergeSort (r := Record.le) (s := Record.le) (f := Record.rename name) fun _ _ _ _ => rfl).symm

/-! ## One call -/

/-- The database holds the records of the store in memory, in the same order and by the
    identifiers that start with this serial number. -/
structure Agree (first : Nat) (d : Database) (m : Memory) : Prop where
  holds : d.Holds (m.records.map (Record.rename fun n => .ofSerial (first + n))) (first + m.nextId)
  failures : m.failures = {}

variable {first : Nat} {d : Database} {m : Memory}

theorem Agree.insert (h : Agree first d m) (value : Int32) :
    (m.insert value).1 = .ok ⟨m.nextId, value⟩ ∧
      (Database.insert d value).1 = .ok ⟨.ofSerial (first + m.nextId), value⟩ ∧
      Agree first (Database.insert d value).2 (m.insert value).2 := by
  obtain ⟨hok, hholds⟩ := Database.insert_holds h.holds value
  have hm : m.insert value =
      (.ok ⟨m.nextId, value⟩, { m with records := m.records ++ [⟨m.nextId, value⟩], nextId := m.nextId + 1 }) := by
    simp [Memory.insert, h.failures]
  rw [hm]
  refine ⟨rfl, hok, ?_, h.failures⟩
  simpa [Record.rename, Nat.add_assoc] using hholds

theorem Agree.list (h : Agree first d m) :
    ∃ records, m.listSorted = .ok records ∧
      (Database.listSorted d).1 = .ok (records.map (Record.rename fun n => .ofSerial (first + n))) ∧
      Agree first (Database.listSorted d).2 m := by
  obtain ⟨hok, hholds⟩ := Database.list_holds h.holds
  refine ⟨m.records.mergeSort Record.le, by simp [Memory.listSorted, h.failures], ?_, hholds, h.failures⟩
  rw [hok, mergeSort_rename]

theorem Agree.ping (h : Agree first d m) :
    m.ping.1 = .ok () ∧ (Database.ping d).1 = .ok () ∧ Agree first (Database.ping d).2 m.ping.2 := by
  obtain ⟨hok, hholds⟩ := Database.ping_holds h.holds
  exact ⟨by simp [Memory.ping, h.failures], hok, hholds, h.failures⟩

/-- Stores that agree give the same answer, a success, and agree after it. -/
theorem Agree.perform (h : Agree first d m) (operation : Operation) :
    (Store.perform d operation).1 = (Store.perform m operation).1.rename (fun n => .ofSerial (first + n)) ∧
      (Store.perform m operation).1.Succeeds ∧
      Agree first (Store.perform d operation).2 (Store.perform m operation).2 := by
  cases operation with
  | insert value =>
    obtain ⟨hm, hd, hagree⟩ := h.insert value
    refine ⟨?_, ?_, hagree⟩
    · change Answer.record (Database.insert d value).1 = Answer.record ((m.insert value).1.map _)
      rw [hm, hd]; rfl
    · change (m.insert value).1.isOk = true
      rw [hm]; rfl
  | list =>
    obtain ⟨records, hm, hd, hagree⟩ := h.list
    refine ⟨?_, ?_, hagree⟩
    · change Answer.records (Database.listSorted d).1 = Answer.records (m.listSorted.map _)
      rw [hm, hd]; rfl
    · change m.listSorted.isOk = true
      rw [hm]; rfl
  | ping =>
    obtain ⟨hm, hd, hagree⟩ := h.ping
    refine ⟨?_, ?_, hagree⟩
    · change Answer.pong (Database.ping d).1 = Answer.pong m.ping.1
      rw [hm, hd]
    · change m.ping.1.isOk = true
      rw [hm]; rfl
  | add value =>
    obtain ⟨hm, hd, hinserted⟩ := h.insert value
    obtain ⟨records, hml, hdl, hagree⟩ := hinserted.list
    have hmemory := Api.storeAndList_ok (s := m) hm hml
    have hdatabase := Api.storeAndList_ok (s := d) hd hdl
    rw [map_value_rename] at hdatabase
    simp only [Store.perform, hmemory, hdatabase]
    exact ⟨rfl, rfl, hagree⟩

/-! ## All calls -/

theorem Agree.performAll (operations : List Operation) : ∀ {d : Database} {m : Memory}, Agree first d m →
    (Store.performAll d operations).1 =
        (Store.performAll m operations).1.map (Answer.rename fun n => .ofSerial (first + n)) ∧
      (∀ answer ∈ (Store.performAll m operations).1, answer.Succeeds) ∧
      Agree first (Store.performAll d operations).2 (Store.performAll m operations).2 := by
  induction operations with
  | nil => intro d m h; exact ⟨rfl, by simp [Store.performAll], h⟩
  | cons operation rest ih =>
    intro d m h
    obtain ⟨hanswer, hsucceeds, hagree⟩ := h.perform operation
    obtain ⟨hanswers, hall, hlast⟩ := ih hagree
    simp only [Store.performAll, List.map_cons, hanswer, hanswers]
    exact ⟨trivial, by simpa using ⟨hsucceeds, hall⟩, hlast⟩

/-- A database in use whose table is empty and a new store in memory give the same
    answers, all of them successes: there is one naming of identifiers, a bijection
    between those of the records and of the rows, under which the answers and the records
    are the same after every call, in the same order. -/
theorem stores_agree (d : Database) (hd : d.InUse) (he : d.server.rows = []) :
    ∃ name : Nat → RowId, Function.Injective name ∧ ∀ operations : List Operation,
      let database := Store.performAll d operations
      let memory := Store.performAll ({} : Memory) operations
      database.1 = memory.1.map (Answer.rename name) ∧ (∀ answer ∈ memory.1, answer.Succeeds) ∧
        database.2.server.rows = memory.2.records.map (Record.rename name) ∧
        Set.BijOn name {n | n ∈ memory.2.records.map (·.id)} {id | id ∈ database.2.server.rows.map (·.id)} := by
  have hname : Function.Injective fun n => RowId.ofSerial (d.server.nextSerial + n) :=
    fun a b h => Nat.add_left_cancel (RowId.ofSerial_inj.mp h)
  refine ⟨_, hname, fun operations => ?_⟩
  have h : Agree d.server.nextSerial d {} := ⟨⟨hd, he, rfl⟩, rfl⟩
  obtain ⟨hanswers, hall, hagree⟩ := h.performAll operations
  refine ⟨hanswers, hall, hagree.holds.rows_eq, ?_⟩
  rw [hagree.holds.rows_eq]
  refine ⟨fun n hn => ?_, hname.injOn, fun id hid => ?_⟩
  · obtain ⟨r, hr, rfl⟩ := List.mem_map.mp hn
    exact List.mem_map.mpr ⟨_, List.mem_map_of_mem hr, rfl⟩
  · obtain ⟨_, hr, rfl⟩ := List.mem_map.mp hid
    obtain ⟨r, hm, rfl⟩ := List.mem_map.mp hr
    exact ⟨r.id, List.mem_map_of_mem hm, rfl⟩

/-- A pool that has no connection yet, on a server that is migrated and holds nothing. -/
def migratedDatabase : Database where
  pool := { options := {}, maxConnections := 1 }
  server := { migrations := Database.Migration.all.map fun m => ⟨m.version, m.checksum, true⟩ }

/-- Equal numbers, calls that are two in one, and a read of all. -/
def fiveCalls : List Operation := [.add 5, .insert 3, .add 5, .ping, .list]

theorem migrated_agrees :
    migratedDatabase.InUse ∧ migratedDatabase.server.rows = [] ∧
      ∃ name : Nat → RowId, Function.Injective name ∧
        (Store.performAll migratedDatabase fiveCalls).1 =
          (Store.performAll ({} : Memory) fiveCalls).1.map (Answer.rename name) ∧
        (Store.performAll migratedDatabase fiveCalls).2.server.rows =
          [⟨name 0, 5⟩, ⟨name 1, 3⟩, ⟨name 2, 5⟩] := by
  have hanswers : migratedDatabase.server.Answers :=
    ⟨fun _ => List.forall_mem_nil _, rfl, rfl, rfl⟩
  have hd : migratedDatabase.InUse := ⟨hanswers, rfl, Or.inr ⟨by decide, rfl, rfl, rfl⟩⟩
  obtain ⟨name, hname, hagree⟩ := stores_agree migratedDatabase hd rfl
  obtain ⟨hanswers, -, hrows, -⟩ := hagree fiveCalls
  exact ⟨hd, rfl, name, hname, hanswers, hrows⟩

end NumberRegistry.Store
