/-
  NumberRegistry.Database.Server — a database server, as far as the service can tell.

  It has a table of numbers and a table of migrations. Every statement is executed for
  itself and stays done: what a failed transaction wrote is not taken back. A server may
  be out of reach, refuse logins, refuse a statement or hang up on it, before or after
  it is executed, and it may answer with other rows than it has.
-/
import NumberRegistry.Database.ConnectOptions
import NumberRegistry.Database.Row
import NumberRegistry.Database.Script

namespace NumberRegistry.Database

open Text

/-- The kinds of statements that the service sends. -/
inductive Statement where
  | insert
  | list
  | ping
  | currentDatabase
  | lock
  | unlock
  | createMigrationsTable
  | dirtyVersion
  | appliedMigrations
  | begin
  | migrationScript
  | recordMigration
  | commit
  | recordTime
  deriving DecidableEq, Repr

structure Refusal where
  code : String
  message : String
  deriving DecidableEq, Repr

def Refusal.error (r : Refusal) : Error := .server r.code r.message

/-- A login that is refused like this is tried again until there is no time left: too
    many connections, or a server that is starting. -/
def Refusal.isTransient (r : Refusal) : Bool := r.code = "53300" || r.code = "57P03"

/-- What happens instead of an answer. -/
inductive Fault where
  /-- The statement is refused and not executed. -/
  | refuse (reason : Refusal)
  | hangUp (executed : Bool)
  deriving DecidableEq, Repr

/-- Which of the statements of a kind meet which fault. -/
inductive Schedule where
  | always (fault : Fault)
  /-- One entry for each statement, and no fault after the last. -/
  | each (faults : List (Option Fault))
  deriving DecidableEq, Repr

def Schedule.take : Schedule → Option Fault × Schedule
  | .always fault => (some fault, .always fault)
  | .each faults => (faults.head?.getD none, .each (faults.drop 1))

structure AppliedMigration where
  version : Int
  checksum : Utf8.Bytes
  success : Bool := true
  deriving DecidableEq, Repr

/-- What the server has done, for its log. -/
inductive Event where
  | login (user database password : Option String)
  | inserted (value : Int32)
  | executed (statement : Statement)
  deriving DecidableEq, Repr

/-- How the server describes records in its answers. -/
structure Shape where
  idColumn : String := "id"
  numberColumn : String := "number"
  /-- The type of the number's column if it is not the usual one. -/
  numberType : Option ForeignType := none
  deriving DecidableEq, Repr

structure Server where
  rows : List (Store.Record RowId) := []
  /-- The serial number of the next row. -/
  nextSerial : Nat := 1
  migrations : List AppliedMigration := []
  reachable : Bool := true
  loginRefusal : Option Refusal := none
  asksPassword : Bool := false
  faults : Statement → Schedule := fun _ => .each []
  shape : Shape := {}
  /-- Identifiers and numbers that are answered instead of the real ones. -/
  insertReturns : Option (List (Option RowId × Option Int32)) := none
  listReturns : Option (List (Option RowId × Option Int32)) := none
  log : List Event := []

/-- Something done on a connection to the server, over with the first error. -/
abbrev Call (ε : Type) := ExceptT ε (StateM Server)

namespace Server

/-- A server with these numbers in its table, in this order. -/
def ofNumbers (numbers : List Int32) : Server where
  rows := numbers.mapIdx fun i n => ⟨RowId.ofSerial (i + 1), n⟩
  nextSerial := numbers.length + 1

def note (s : Server) (event : Event) : Server := { s with log := s.log ++ [event] }

def login (s : Server) (o : ConnectOptions) : Except Error Unit × Server :=
  if !s.reachable then (.error o.unreachable, s)
  else if o.sslMode.isStrict then
    (.error (.tls (.other "server does not support TLS")), s)
  else
    let s := s.note (.login o.user o.database (if s.asksPassword then o.password else none))
    match s.loginRefusal with
    | some r => (.error (if r.isTransient then .poolTimedOut else r.error), s)
    | none => (.ok (), s)

def takeFault (s : Server) (statement : Statement) : Option Fault × Server :=
  let (fault, rest) := (s.faults statement).take
  (fault, { s with faults := fun other => if other = statement then rest else s.faults other })

/-- The error of a connection that was closed by the server. -/
def hungUp : Error := .io (.other "expected to read 5 bytes, got 0 bytes at EOF")

/-- Sends a statement; `execute` is what it does, and its answer. -/
def send {α : Type} (statement : Statement) (execute : Server → α × Server) : Call Error α :=
  ExceptT.mk fun s =>
    let (fault, s) := s.takeFault statement
    match fault with
    | some (.refuse reason) => (.error reason.error, s)
    | some (.hangUp false) => (.error hungUp, s)
    | some (.hangUp true) => (.error hungUp, (execute s).2)
    | none =>
      let (answer, s) := execute s
      (.ok answer, s)

/-- Sends a statement that has no answer and no lasting effect. -/
def tell (statement : Statement) : Call Error Unit :=
  send statement fun s => ((), s.note (.executed statement))

def row (s : Server) (id : Option RowId) (value : Option Int32) : Row :=
  [⟨s.shape.idColumn, .uuid id⟩,
    ⟨s.shape.numberColumn, s.shape.numberType.elim (.int4 value) (.foreign · value.isNone)⟩]

def answerRows (s : Server) (returns : Option (List (Option RowId × Option Int32)))
    (records : List (Store.Record RowId)) : List Row :=
  match returns with
  | some cells => cells.map fun (id, value) => s.row id value
  | none => records.map fun r => s.row (some r.id) (some r.value)

def executeInsert (value : Int32) (s : Server) : List Row × Server :=
  let record : Store.Record RowId := ⟨.ofSerial s.nextSerial, value⟩
  let s := { s with rows := s.rows ++ [record], nextSerial := s.nextSerial + 1 }
  (s.answerRows s.insertReturns [record], s.note (.inserted value))

def insert (value : Int32) : Call Error (List Row) := send .insert (executeInsert value)

/-- Reads all rows, sorted by number; equal numbers keep their order. -/
def list : Call Error (List Row) :=
  send .list fun s =>
    (s.answerRows s.listReturns (s.rows.mergeSort Store.Record.le), s.note (.executed .list))

/-- The lowest version of a migration that was begun and not finished. -/
def dirtyVersion : Call Error (Option Int) :=
  send .dirtyVersion fun s =>
    (((s.migrations.filter (!·.success)).map (·.version)).min?,
      s.note (.executed .dirtyVersion))

/-- All migrations in the order of their versions. -/
def appliedMigrations : Call Error (List AppliedMigration) :=
  send .appliedMigrations fun s =>
    (s.migrations.mergeSort fun a b => decide (a.version ≤ b.version),
      s.note (.executed .appliedMigrations))

/-- What a statement of a script leaves of the table of numbers, which is there already. -/
def executeCommand (s : Server) : Script.Command → Except Error Server
  | .create _ true => .ok s
  | .create name false => .error (.server "42P07" ("relation \"" ++ name ++ "\" already exists"))
  | .remove => .ok { s with rows := [] }
  | .unknown word => .error (.server "42601" ("syntax error at or near \"" ++ word ++ "\""))

/-- Executes commands up to the first that is refused; what was done before it stays done. -/
def executeCommands (s : Server) : List Script.Command → Except Error Unit × Server
  | [] => (.ok (), s)
  | command :: rest =>
    match s.executeCommand command with
    | .ok s => s.executeCommands rest
    | .error e => (.error e, s)

/-- Sends the script of a migration. -/
def runScript (script : String) : Call Error Unit := do
  let result ← send .migrationScript fun s =>
    (s.note (.executed .migrationScript)).executeCommands (Script.commands script)
  MonadExcept.ofExcept result

def recordMigration (m : AppliedMigration) : Call Error Unit :=
  send .recordMigration fun s =>
    ((), { s with migrations := s.migrations ++ [m] }.note (.executed .recordMigration))

end Server

end NumberRegistry.Database
