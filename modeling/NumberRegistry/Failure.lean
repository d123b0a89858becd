/-
  NumberRegistry.Failure — what can go wrong below the service, and why it does not come up.

  An error that wraps another says its message after its own, and lists it among its
  sources, which go from the outermost error inwards. Of an error from outside the program
  nothing is known but what it says, and what the errors behind it say.
-/
import NumberRegistry.Settings.Basic

namespace NumberRegistry

/-! ## Outside the program -/

/-- An error that comes from outside the program. It says its own words first, and then
    all that the error behind it says. -/
inductive Cause where
  | plain (text : String)
  | wrapped (words : String) (cause : Cause)
  deriving DecidableEq, Repr

instance : Coe String Cause := ⟨.plain⟩

namespace Cause

def message : Cause → String
  | .plain text => text
  | .wrapped words cause => words ++ cause.message

/-- The messages of the errors behind this one, outermost first. -/
def sources : Cause → List String
  | .plain _ => []
  | .wrapped _ cause => cause.message :: cause.sources

end Cause

/-! ## The database -/

namespace Database

open Text

mutual

inductive Error where
  | rowNotFound
  | poolTimedOut
  | poolClosed
  | workerCrashed
  | protocol (text : String)
  | columnNotFound (name : String)
  | typeNotFound (name : String)
  | columnIndexOutOfBounds (index length : Nat)
  | configuration (cause : Error)
  | tls (cause : Error)
  | encode (cause : Error)
  | decode (cause : Error)
  | columnDecode (column : String) (cause : Error)
  | io (cause : Error)
  /-- The server refused a statement or a login. -/
  | server (code message : String)
  | migration (cause : MigrationError)
  /-- An error of the driver's that is none of these, or a cause from outside the driver. -/
  | other (cause : Cause)
  deriving DecidableEq, Repr

/-- Why the schema could not be brought up to date. Versions are those of migrations. -/
inductive MigrationError where
  | versionMissing (version : Int)
  | versionMismatch (version : Int)
  | versionNotPresent (version : Int)
  | dirty (version : Int)
  | execute (cause : Error)
  | executeMigration (cause : Error) (version : Int)
  | source (cause : Cause)
  deriving DecidableEq, Repr

end

mutual

def Error.message : Error → String
  | .rowNotFound =>
    "no rows returned by a query that expected to return at least one row"
  | .poolTimedOut => "pool timed out while waiting for an open connection"
  | .poolClosed => "attempted to acquire a connection on a closed pool"
  | .workerCrashed => "attempted to communicate with a crashed background worker"
  | .protocol text => "encountered unexpected or invalid data: " ++ text
  | .columnNotFound name => "no column found for name: " ++ name
  | .typeNotFound name => "type named " ++ name ++ " not found"
  | .columnIndexOutOfBounds index length =>
    "column index out of bounds: the len is " ++ Decimal.ofNat length ++ ", but the index is " ++
      Decimal.ofNat index
  | .configuration cause => "error with configuration: " ++ cause.message
  | .tls cause => "error occurred while attempting to establish a TLS connection: " ++ cause.message
  | .encode cause => "error occurred while encoding a value: " ++ cause.message
  | .decode cause => "error occurred while decoding: " ++ cause.message
  | .columnDecode column cause =>
    "error occurred while decoding column " ++ column ++ ": " ++ cause.message
  | .io cause => "error communicating with database: " ++ cause.message
  | .server _ text => "error returned from database: " ++ text
  | .migration cause => cause.message
  | .other cause => cause.message

def MigrationError.message : MigrationError → String
  | .versionMissing v =>
    "migration " ++ Decimal.ofInt v ++
      " was previously applied but is missing in the resolved migrations"
  | .versionMismatch v =>
    "migration " ++ Decimal.ofInt v ++ " was previously applied but has been modified"
  | .versionNotPresent v =>
    "migration " ++ Decimal.ofInt v ++ " is not present in the migration source"
  | .dirty v =>
    "migration " ++ Decimal.ofInt v ++
      " is partially applied; fix and remove row from \x60_sqlx_migrations\x60 table"
  | .execute cause => "while executing migrations: " ++ cause.message
  | .executeMigration cause v =>
    "while executing migration " ++ Decimal.ofInt v ++ ": " ++ cause.message
  | .source cause => "while resolving migrations: " ++ cause.message

end

mutual

def Error.sources : Error → List String
  | .configuration cause => cause.message :: cause.sources
  | .tls cause => cause.message :: cause.sources
  | .encode cause => cause.message :: cause.sources
  | .decode cause => cause.message :: cause.sources
  | .columnDecode _ cause => cause.message :: cause.sources
  | .io cause => cause.message :: cause.sources
  | .server _ text => [text]
  | .migration cause => cause.message :: cause.sources
  | .other cause => cause.sources
  | _ => []

def MigrationError.sources : MigrationError → List String
  | .execute cause => cause.message :: cause.sources
  | .executeMigration cause _ => cause.message :: cause.sources
  | .source cause => cause.message :: cause.sources
  | _ => []

end

end Database

/-! ## The store -/

namespace Store

/-- Why a store did not do what it was asked. -/
inductive Error where
  | database (cause : Database.Error)
  /-- The store is out of reach for a reason outside the database driver. -/
  | unavailable (reason : String)
  deriving DecidableEq, Repr

namespace Error

def message : Error → String
  | .database cause => cause.message
  | .unavailable reason => "store unavailable: " ++ reason

def sources : Error → List String
  | .database cause => cause.message :: cause.sources
  | .unavailable _ => []

end Error

end Store

/-! ## The start -/

/-- Why the service does not come up. -/
inductive StartupError where
  | settings (cause : Settings.Error)
  | connect (cause : Database.Error)
  | migrate (cause : Database.MigrationError)
  | store (cause : Store.Error)
  | io (cause : Cause)
  deriving DecidableEq, Repr

namespace StartupError

def message : StartupError → String
  | .settings cause => "configuration error: " ++ cause.message
  | .connect cause => "failed to connect to database: " ++ cause.message
  | .migrate cause => "migration error: " ++ cause.message
  | .store cause => "store error: " ++ cause.message
  | .io cause => "io error: " ++ cause.message

def sources : StartupError → List String
  | .settings cause => cause.message :: cause.sources
  | .connect cause => cause.message :: cause.sources
  | .migrate cause => cause.message :: cause.sources
  | .store cause => cause.message :: cause.sources
  | .io cause => cause.message :: cause.sources

end StartupError

end NumberRegistry
