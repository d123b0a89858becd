/-
  NumberRegistry.Proofs.Database.FailedInsert — what a failed insert leaves in the table.

  An INSERT is done when the server has executed it, and its answer is read after that. So
  an insert can fail in two ways: the server has not executed it (`Unexecuted`), or it has,
  and the answer is lost or has no record (`Unconfirmed`). The caller gets an error in both.

  Proved, for every server and pool:
  - `insert_failures`: an insert fails in just these ways, with the error that each names.
    In the first the table is as it was; in the second it has one row more, with the number.
  - `confirms_iff`: which answers to an INSERT have a record.
  A table whose numbers are of a wider type is an example of the second
  (`wide_insert_is_stored`).
-/
import NumberRegistry.Proofs.Database.Growth

namespace NumberRegistry.Database

/-! ## The answer to an INSERT -/

namespace Row

variable {α : Type} {r : Row} {name : String} {read : Cell → Except String α}

theorem isOk_field {c : Cell} (h : r.cell name = .ok c) : (r.field name read).isOk = (read c).isOk := by
  simp only [field, h, bind, Except.bind]
  cases read c <;> rfl

theorem isOk_field_of_error {e : Error} (h : r.cell name = .error e) : (r.field name read).isOk = false := by
  simp only [field, h, bind, Except.bind]
  rfl

theorem isOk_record (r : Row) :
    r.record.isOk = ((r.field "id" Cell.id?).isOk && (r.field "number" Cell.int4?).isOk) := by
  unfold record
  cases r.field "id" Cell.id? with
  | error e => rfl
  | ok id => cases r.field "number" Cell.int4? <;> rfl

end Row

namespace Server

variable {s : Server} {id : Option RowId} {n : Option Int32}

/-- The server answers an INSERT with a record: an identifier and a number, in the columns
    that a record is read from. -/
def Confirms (s : Server) : Prop :=
  s.shape = {} ∧ (s.insertReturns = none ∨ ∃ id n rest, s.insertReturns = some ((some id, some n) :: rest))

theorem shape_eq_iff {shape : Shape} :
    shape = {} ↔ shape.idColumn = "id" ∧ shape.numberColumn = "number" ∧ shape.numberType = none := by
  cases shape
  simp

theorem cell_row (s : Server) (id : Option RowId) (n : Option Int32) (name : String) :
    (s.row id n).cell name =
      if s.shape.numberColumn = name then .ok (s.shape.numberType.elim (.int4 n) (.foreign · n.isNone))
      else if s.shape.idColumn = name then .ok (.uuid id)
      else .error (.columnNotFound name) := by
  by_cases hn : s.shape.numberColumn = name <;> by_cases hi : s.shape.idColumn = name <;>
    simp [Row.cell, row, hn, hi]

/-- A number is read only from a column of its name and type. -/
theorem isOk_number : ((s.row id n).field "number" Cell.int4?).isOk ↔
    s.shape.numberColumn = "number" ∧ s.shape.numberType = none ∧ n.isSome := by
  have hcell := s.cell_row id n "number"
  by_cases hn : s.shape.numberColumn = "number"
  · rw [if_pos hn] at hcell
    rw [Row.isOk_field hcell]
    cases s.shape.numberType <;> cases n <;> simp [hn, Cell.int4?, Except.isOk, Except.toBool]
  rw [if_neg hn] at hcell
  by_cases hi : s.shape.idColumn = "number"
  · rw [if_pos hi] at hcell
    rw [Row.isOk_field hcell]
    simp [hn, Cell.int4?, Except.isOk, Except.toBool]
  · rw [if_neg hi] at hcell
    simp [Row.isOk_field_of_error hcell, hn]

/-- Beside the column of numbers, an identifier is read from a column of its name. -/
theorem isOk_id (hn : s.shape.numberColumn = "number") : ((s.row id n).field "id" Cell.id?).isOk ↔
    s.shape.idColumn = "id" ∧ id.isSome := by
  have hcell := s.cell_row id n "id"
  rw [if_neg (by rw [hn]; decide)] at hcell
  by_cases hi : s.shape.idColumn = "id"
  · rw [if_pos hi] at hcell
    rw [Row.isOk_field hcell]
    cases id <;> simp [hi, Cell.id?, Except.isOk, Except.toBool]
  · rw [if_neg hi] at hcell
    simp [Row.isOk_field_of_error hcell, hi]

theorem isOk_row : (s.row id n).record.isOk ↔ s.shape = {} ∧ id.isSome ∧ n.isSome := by
  rw [Row.isOk_record, Bool.and_eq_true, isOk_number, shape_eq_iff]
  constructor
  · rintro ⟨hid, hn, htype, hsome⟩
    obtain ⟨hi, hsome'⟩ := (isOk_id hn).mp hid
    exact ⟨⟨hi, hn, htype⟩, hsome', hsome⟩
  · rintro ⟨⟨hi, hn, htype⟩, hsome', hsome⟩
    exact ⟨(isOk_id hn).mpr ⟨hi, hsome'⟩, hn, htype, hsome⟩

/-- Which answers to an INSERT have a record: any row at all will not do. -/
theorem confirms_iff (value : Int32) : (firstRecord (executeInsert value s).1).isOk ↔ s.Confirms := by
  simp only [executeInsert, answerRows, Confirms]
  cases s.insertReturns with
  | none => exact isOk_row.trans (by simp)
  | some cells =>
    cases cells with
    | nil => simp [firstRecord, Except.isOk, Except.toBool]
    | cons cell rest =>
      obtain ⟨id, n⟩ := cell
      refine isOk_row.trans ?_
      simp [Option.isSome_iff_exists]

end Server

/-! ## Ways to fail -/

/-- There is a connection, and this is what happens to an INSERT on it. -/
def Meets (d : Database) (fault : Option Fault) : Prop :=
  d.acquire.1 = .ok () ∧ d.acquire.2.server.fault .insert = fault

/-- The ways in which an insert fails that the server has not executed. -/
inductive Unexecuted (d : Database) : Store.Error → Prop
  | unconnected {e : Error} (h : d.acquire.1 = .error e) : Unexecuted d (.database e)
  | refused {reason : Refusal} (h : d.Meets (some (.refuse reason))) : Unexecuted d (.database reason.error)
  | lost (h : d.Meets (some (.hangUp false))) : Unexecuted d (.database Server.hungUp)

/-- The ways in which an insert fails that the server has executed. -/
inductive Unconfirmed (d : Database) (value : Int32) : Store.Error → Prop
  | lost (h : d.Meets (some (.hangUp true))) : Unconfirmed d value (.database Server.hungUp)
  | unreadable {e : Error} (h : d.Meets none)
      (hr : firstRecord (Server.executeInsert value d.acquire.2.server).1 = .error e) :
      Unconfirmed d value (.database e)

variable {d : Database} {value : Int32} {cause : Store.Error}

theorem insert_unconnected {e : Error} (h : d.acquire.1 = .error e) (value : Int32) :
    (insert d value).1 = .error (.database e) ∧ (insert d value).2.server = d.acquire.2.server := by
  obtain ⟨hresult, hserver⟩ := use_unconnected id Error.isLoss (Server.insert value) h
  refine ⟨?_, hserver⟩
  change ((d.use id Error.isLoss (Server.insert value)).1.bind firstRecord).mapError _ = _
  rw [hresult]
  rfl

/-- An INSERT on a connection, by what happens to it. -/
theorem insert_meets {fault : Option Fault} (h : d.Meets fault) (value : Int32) :
    let s := (d.acquire.2.server.takeFault .insert).2
    match fault with
    | some (.refuse reason) => (insert d value).1 = .error (.database reason.error) ∧ (insert d value).2.server = s
    | some (.hangUp false) => (insert d value).1 = .error (.database Server.hungUp) ∧ (insert d value).2.server = s
    | some (.hangUp true) =>
      (insert d value).1 = .error (.database Server.hungUp) ∧
        (insert d value).2.server = (Server.executeInsert value s).2
    | none =>
      (insert d value).1 = (firstRecord (Server.executeInsert value d.acquire.2.server).1).mapError .database ∧
        (insert d value).2.server = (Server.executeInsert value s).2 := by
  obtain ⟨hc, hf⟩ := h
  obtain ⟨hresult, hserver⟩ := use_connected id Error.isLoss (Server.insert value) hc
  have hinsert : (insert d value).1 =
      ((d.use id Error.isLoss (Server.insert value)).1.bind firstRecord).mapError .database := rfl
  rw [Server.insert, Server.run_send, hf] at hresult hserver
  rw [hinsert, Server.insert, hresult]
  cases fault with
  | none => exact ⟨rfl, hserver⟩
  | some fault => cases fault with
    | refuse reason => exact ⟨rfl, hserver⟩
    | hangUp executed => cases executed <;> exact ⟨rfl, hserver⟩

/-- An insert that fails unexecuted leaves the table alone. -/
theorem Unexecuted.insert (h : Unexecuted d cause) (value : Int32) :
    (insert d value).1 = .error cause ∧ d.server.Grown [] (insert d value).2.server := by
  have hquiet := (acquire_grown d).trans (Server.grown_takeFault .insert)
  cases h with
  | unconnected h =>
    obtain ⟨hresult, hserver⟩ := insert_unconnected h value
    exact ⟨hresult, hserver ▸ acquire_grown d⟩
  | refused h =>
    obtain ⟨hresult, hserver⟩ := insert_meets h value
    exact ⟨hresult, hserver ▸ hquiet⟩
  | lost h =>
    obtain ⟨hresult, hserver⟩ := insert_meets h value
    exact ⟨hresult, hserver ▸ hquiet⟩

/-- An insert that fails unconfirmed has added the number. -/
theorem Unconfirmed.insert (h : Unconfirmed d value cause) :
    (insert d value).1 = .error cause ∧ d.server.Grown [value] (insert d value).2.server := by
  have hgrown := ((acquire_grown d).trans (Server.grown_takeFault .insert)).trans
    (Server.executeInsert_grown (s := (d.acquire.2.server.takeFault .insert).2) value)
  cases h with
  | lost h =>
    obtain ⟨hresult, hserver⟩ := insert_meets h value
    exact ⟨hresult, hserver ▸ hgrown⟩
  | unreadable h hr =>
    obtain ⟨hresult, hserver⟩ := insert_meets h value
    exact ⟨by rw [hresult, hr]; rfl, hserver ▸ hgrown⟩

/-- There is no other way to fail. -/
theorem insert_error (h : (insert d value).1 = .error cause) : Unexecuted d cause ∨ Unconfirmed d value cause := by
  cases hc : d.acquire.1 with
  | error e =>
    rw [(insert_unconnected hc value).1] at h
    cases h
    exact Or.inl (.unconnected hc)
  | ok _ =>
    have hmeets : d.Meets (d.acquire.2.server.fault .insert) := ⟨hc, rfl⟩
    generalize d.acquire.2.server.fault .insert = fault at hmeets
    have hresult := insert_meets hmeets value
    cases fault with
    | none =>
      rw [hresult.1] at h
      cases hr : firstRecord (Server.executeInsert value d.acquire.2.server).1 with
      | ok record => rw [hr] at h; cases h
      | error e =>
        rw [hr] at h
        cases h
        exact Or.inr (.unreadable hmeets hr)
    | some fault => cases fault with
      | refuse reason => rw [hresult.1] at h; cases h; exact Or.inl (.refused hmeets)
      | hangUp executed => cases executed with
        | false => rw [hresult.1] at h; cases h; exact Or.inl (.lost hmeets)
        | true => rw [hresult.1] at h; cases h; exact Or.inr (.lost hmeets)

/-- When an insert fails that was executed. -/
theorem unconfirmed_iff : (∃ cause, Unconfirmed d value cause) ↔
    d.Meets (some (.hangUp true)) ∨ d.Meets none ∧ ¬ d.acquire.2.server.Confirms := by
  rw [← Server.confirms_iff value]
  constructor
  · rintro ⟨cause, h⟩
    cases h with
    | lost h => exact Or.inl h
    | unreadable h hr => exact Or.inr ⟨h, by rw [hr]; exact Bool.false_ne_true⟩
  · rintro (h | ⟨h, hr⟩)
    · exact ⟨_, .lost h⟩
    · cases hf : firstRecord (Server.executeInsert value d.acquire.2.server).1 with
      | ok record => rw [hf] at hr; exact absurd rfl hr
      | error e => exact ⟨_, .unreadable h hf⟩

/-! ## What is left in the table -/

/-- What a failed insert tells of the table. It fails unexecuted, and then the table is as
    it was; or executed but unconfirmed, and then the table has one row more, with the
    number. The second happens if the connection is lost after the execution, or if the
    answer has no record in its first row. Adding a number fails with it, and has done
    nothing else. -/
theorem insert_failures (d : Database) (value : Int32) (cause : Store.Error) :
    let done := insert d value
    (done.1 = .error cause ↔ Unexecuted d cause ∨ Unconfirmed d value cause) ∧
    (Unexecuted d cause → done.2.server.rows = d.server.rows) ∧
    (Unconfirmed d value cause → ∃ id, done.2.server.rows = d.server.rows ++ [⟨id, value⟩]) ∧
    ((∃ e, Unconfirmed d value e) ↔
      d.Meets (some (.hangUp true)) ∨ d.Meets none ∧ ¬ d.acquire.2.server.Confirms) ∧
    (done.1 = .error cause → Api.storeAndList value d = (.error (.insert cause), done.2)) := by
  intro done
  refine ⟨⟨insert_error, ?_⟩, fun h => ?_, fun h => ?_, unconfirmed_iff, Api.storeAndList_failed⟩
  · rintro (h | h)
    · exact (h.insert value).1
    · exact h.insert.1
  · obtain ⟨added, _, hrows, -, hadded, -⟩ := (h.insert value).2
    rw [hrows, List.map_eq_nil_iff.mp hadded, List.append_nil]
  · obtain ⟨added, _, hrows, -, hadded, -⟩ := h.insert.2
    obtain ⟨row, rfl, rfl⟩ := List.map_eq_singleton_iff.mp hadded
    exact ⟨row.id, hrows⟩

/-- A database whose table was made with numbers of eight bytes. -/
def wideNumbers : Database := ⟨{ options := {}, maxConnections := 1 }, { shape := { numberType := some .int8 } }⟩

/-- A failed insert does not mean that nothing was stored. -/
theorem wide_insert_is_stored :
    ∃ cause, (insert wideNumbers 7).1 = .error cause ∧
      (Api.storeAndList 7 wideNumbers).1 = .error (.insert cause) ∧
      wideNumbers.server.rows = [] ∧ (insert wideNumbers 7).2.server.rows = [⟨.ofSerial 1, 7⟩] := by
  have hmeets : wideNumbers.Meets none := ⟨rfl, rfl⟩
  have hwide : ¬ wideNumbers.acquire.2.server.Confirms := fun h => nomatch (Server.shape_eq_iff.mp h.1).2.2
  obtain ⟨cause, h⟩ := (unconfirmed_iff.mpr (Or.inr ⟨hmeets, hwide⟩) : ∃ cause, Unconfirmed wideNumbers 7 cause)
  have hfails := h.insert.1
  exact ⟨cause, hfails, congrArg Prod.fst (Api.storeAndList_failed hfails), rfl, rfl⟩

end NumberRegistry.Database
