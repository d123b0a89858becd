/-
  NumberRegistry.Database.Store — numbers kept in a database.

  Each operation is one statement. An insert is done when the server has executed it,
  whatever becomes of its answer.
-/
import NumberRegistry.Database.Migration
import NumberRegistry.Database.Pool
import NumberRegistry.Failure

namespace NumberRegistry.Database

def query {α : Type} (d : Database) (call : Call Error α) : Except Error α × Database :=
  d.use id Error.isLoss call

/-- The record in the first row, or the lack of one. -/
def firstRecord : List Row → Except Error (Store.Record RowId)
  | [] => .error .rowNotFound
  | row :: _ => row.record

def insert (d : Database) (value : Int32) : Except Store.Error (Store.Record RowId) × Database :=
  let (rows, d) := d.query (Server.insert value)
  ((rows.bind firstRecord).mapError .database, d)

def listSorted (d : Database) : Except Store.Error (List (Store.Record RowId)) × Database :=
  let (rows, d) := d.query Server.list
  ((rows.bind (·.mapM Row.record)).mapError .database, d)

def ping (d : Database) : Except Store.Error Unit × Database :=
  let (result, d) := d.query (Server.tell .ping)
  (result.mapError .database, d)

instance : NumberStore Database RowId where
  insert := insert
  listSorted := listSorted
  ping := ping

/-- Applies the migrations that the database lacks. -/
def migrate (d : Database) : Except StartupError Unit × Database :=
  let (result, d) := d.use MigrationError.execute MigrationError.isLoss (Migration.run Migration.all)
  (result.mapError .migrate, d)

end NumberRegistry.Database
