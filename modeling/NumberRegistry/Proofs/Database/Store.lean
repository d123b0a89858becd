/-
  NumberRegistry.Proofs.Database.Store — numbers kept in a database that answers.

  A server answers (`Server.Answers`) if it executes every statement and answers with what
  it has. A database on such a server, with a connection at hand or to be had, is in use
  (`Database.InUse`), and stays so. `Database.Holds` says of it what is in its table; each
  operation does to that what it is there for (`insert_holds`, `list_holds`, `ping_holds`).
-/
import NumberRegistry.Database.Store

namespace NumberRegistry

open Database

namespace Database

/-! ## Statements -/

/-- No statement meets a fault. -/
def Schedule.Clear : Schedule → Prop
  | .always _ => False
  | .each faults => ∀ fault ∈ faults, fault = none

theorem Schedule.Clear.take {s : Schedule} (h : s.Clear) : s.take.1 = none ∧ s.take.2.Clear := by
  cases s with
  | always fault => exact h.elim
  | each faults =>
    refine ⟨?_, fun fault hf => h fault (List.mem_of_mem_drop hf)⟩
    cases faults with
    | nil => rfl
    | cons fault rest => exact h fault (List.mem_cons_self ..)

/-- The server executes every statement, and answers with the rows it has. -/
structure Server.Answers (s : Server) : Prop where
  faults : ∀ statement, (s.faults statement).Clear
  shape : s.shape = {}
  insertReturns : s.insertReturns = none
  listReturns : s.listReturns = none

namespace Server

theorem Answers.takeFault {s : Server} (h : s.Answers) (statement : Statement) :
    (s.takeFault statement).1 = none ∧ (s.takeFault statement).2.Answers := by
  have ht := (h.faults statement).take
  refine ⟨ht.1, fun other => ?_, h.shape, h.insertReturns, h.listReturns⟩
  show (if other = statement then _ else _ : Schedule).Clear
  split
  · exact ht.2
  · exact h.faults other

/-- A server that answers has executed what it was sent. -/
theorem Answers.send {α : Type} {s : Server} (h : s.Answers) (statement : Statement)
    (execute : Server → α × Server) :
    (Server.send statement execute).run.run s =
      (.ok (execute (s.takeFault statement).2).1, (execute (s.takeFault statement).2).2) := by
  have hf := (h.takeFault statement).1
  simp [Server.send, ExceptT.run, ExceptT.mk, StateT.run, hf]

theorem Answers.note {s : Server} (h : s.Answers) (event : Event) : (s.note event).Answers :=
  ⟨h.faults, h.shape, h.insertReturns, h.listReturns⟩

end Server

/-- The row of a record, in the columns a record is read from. -/
def rowOf (r : Store.Record RowId) : Row := [⟨"id", .uuid (some r.id)⟩, ⟨"number", .int4 (some r.value)⟩]

@[simp] theorem record_rowOf (r : Store.Record RowId) : (rowOf r).record = .ok r := rfl

theorem mapM_record_rowOf (records : List (Store.Record RowId)) :
    (records.map rowOf).mapM Row.record = .ok records := by
  induction records with
  | nil => rfl
  | cons r rest ih => rw [List.map_cons, List.mapM_cons, record_rowOf, ih]; rfl

theorem Server.Answers.answerRows {s : Server} (h : s.Answers) (records : List (Store.Record RowId)) :
    s.answerRows none records = records.map rowOf := by
  simp only [Server.answerRows, Server.row, h.shape]
  rfl

end Database

/-! ## Connections -/

namespace Database

/-- A login would succeed. -/
structure Admits (s : Server) (options : ConnectOptions) : Prop where
  reachable : s.reachable = true
  plain : options.sslMode.isStrict = false
  welcome : s.loginRefusal = none

/-- The server answers, and the pool has a connection or can open one. -/
structure InUse (d : Database) : Prop where
  answers : d.server.Answers
  opened : d.pool.closed = false
  connection : 0 < d.pool.idle ∨ 0 < d.pool.maxConnections ∧ Admits d.server d.pool.options

/-- The database is in use, with these rows in its table, and this serial number for the next. -/
structure Holds (d : Database) (rows : List (Store.Record RowId)) (serial : Nat) : Prop where
  inUse : d.InUse
  rows_eq : d.server.rows = rows
  serial_eq : d.server.nextSerial = serial

/-- There is a connection to be had, and having it changes nothing in the table. -/
theorem Holds.acquire {d : Database} {rows : List (Store.Record RowId)} {serial : Nat} (h : d.Holds rows serial) :
    d.acquire.1 = .ok () ∧ d.acquire.2.Holds rows serial ∧ 0 < d.acquire.2.pool.idle := by
  unfold Database.acquire
  rw [h.inUse.opened]
  by_cases hidle : 0 < d.pool.idle
  · simp only [Bool.false_eq_true, if_false, hidle, if_true]
    exact ⟨trivial, h, trivial⟩
  obtain ⟨hmax, hadmits⟩ := h.inUse.connection.resolve_left hidle
  have hopen : d.openOne = (.ok (), ⟨{ d.pool with idle := d.pool.idle + 1 },
      d.server.note (.login d.pool.options.user d.pool.options.database
        (if d.server.asksPassword then d.pool.options.password else none))⟩) := by
    simp [openOne, Server.login, hadmits.reachable, hadmits.plain, hadmits.welcome, Server.note]
  simp only [Bool.false_eq_true, if_false, hidle, Nat.ne_of_gt hmax, hopen]
  exact ⟨trivial, ⟨⟨h.inUse.answers.note _, h.inUse.opened, Or.inl (Nat.succ_pos _)⟩, h.rows_eq, h.serial_eq⟩,
    Nat.succ_pos _⟩

/-- What a statement does on a server that answers: what it answers with these rows in the
    table, and the rows that it leaves. -/
def Does {α : Type} (execute : Server → α × Server) (rows : List (Store.Record RowId)) (serial : Nat)
    (answer : α) (rows' : List (Store.Record RowId)) (serial' : Nat) : Prop :=
  ∀ s : Server, s.Answers → s.rows = rows → s.nextSerial = serial →
    (execute s).1 = answer ∧ (execute s).2.Answers ∧ (execute s).2.rows = rows' ∧
      (execute s).2.nextSerial = serial'

/-- Sent from a database in use, it has its answer and its effect. -/
theorem Holds.send {α : Type} {d : Database} {rows rows' : List (Store.Record RowId)} {serial serial' : Nat}
    (h : d.Holds rows serial) {execute : Server → α × Server} {answer : α}
    (he : Does execute rows serial answer rows' serial') (statement : Statement) :
    (d.query (Server.send statement execute)).1 = .ok answer ∧
      (d.query (Server.send statement execute)).2.Holds rows' serial' := by
  obtain ⟨hok, hholds, hidle⟩ := h.acquire
  have htaken := (hholds.inUse.answers.takeFault statement).2
  obtain ⟨hanswer, hanswers, hrows, hserial⟩ :=
    he (d.acquire.2.server.takeFault statement).2 htaken hholds.rows_eq hholds.serial_eq
  have hsend := hholds.inUse.answers.send statement execute
  have hacquire : d.acquire = (.ok (), d.acquire.2) := by rw [← hok]
  unfold query use
  rw [hacquire]
  simp only [hsend, hanswer]
  exact ⟨trivial, ⟨hanswers, hholds.inUse.opened, Or.inl hidle⟩, hrows, hserial⟩

/-! ## Operations -/

variable {d : Database} {rows : List (Store.Record RowId)} {serial : Nat}

theorem does_insert (value : Int32) :
    Does (Server.executeInsert value) rows serial [rowOf ⟨.ofSerial serial, value⟩]
      (rows ++ [⟨.ofSerial serial, value⟩]) (serial + 1) := by
  intro s ha hr hs
  subst hr hs
  refine ⟨?_, ⟨ha.faults, ha.shape, ha.insertReturns, ha.listReturns⟩, rfl, rfl⟩
  simp only [Server.executeInsert, Server.answerRows, ha.insertReturns, Server.row, ha.shape]
  rfl

theorem does_list :
    Does (fun s => (s.answerRows s.listReturns (s.rows.mergeSort Store.Record.le), s.note (.executed .list)))
      rows serial ((rows.mergeSort Store.Record.le).map rowOf) rows serial := by
  intro s ha hr hs
  exact ⟨by simp only [ha.listReturns, hr, ha.answerRows], ha.note _, hr, hs⟩

theorem does_tell (statement : Statement) :
    Does (fun s => ((), s.note (.executed statement))) rows serial () rows serial :=
  fun _ ha hr hs => ⟨rfl, ha.note _, hr, hs⟩

theorem insert_holds (h : d.Holds rows serial) (value : Int32) :
    (insert d value).1 = .ok ⟨.ofSerial serial, value⟩ ∧
      (insert d value).2.Holds (rows ++ [⟨.ofSerial serial, value⟩]) (serial + 1) := by
  obtain ⟨hok, hholds⟩ := h.send (does_insert value) .insert
  refine ⟨?_, hholds⟩
  change ((d.query (Server.insert value)).1.bind firstRecord).mapError _ = _
  rw [show (d.query (Server.insert value)).1 = _ from hok]
  rfl

theorem list_holds (h : d.Holds rows serial) :
    (listSorted d).1 = .ok (rows.mergeSort Store.Record.le) ∧ (listSorted d).2.Holds rows serial := by
  obtain ⟨hok, hholds⟩ := h.send does_list .list
  refine ⟨?_, hholds⟩
  change ((d.query Server.list).1.bind (·.mapM Row.record)).mapError _ = _
  rw [show (d.query Server.list).1 = _ from hok]
  change ((List.map rowOf _).mapM Row.record).mapError _ = _
  rw [mapM_record_rowOf]
  rfl

theorem ping_holds (h : d.Holds rows serial) :
    (ping d).1 = .ok () ∧ (ping d).2.Holds rows serial := by
  obtain ⟨hok, hholds⟩ := h.send (does_tell .ping) .ping
  refine ⟨?_, hholds⟩
  change ((d.query (Server.tell .ping)).1).mapError _ = _
  rw [show (d.query (Server.tell .ping)).1 = _ from hok]
  rfl

end Database

end NumberRegistry
