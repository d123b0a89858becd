/-
  NumberRegistry.Database.Migration — bringing the schema up to date.

  The server remembers which migrations were applied, with the checksums of their
  scripts. A run holds a lock, refuses a database that a run left half done or that
  knows other migrations than these, and applies what is missing. A run that fails
  neither unlocks nor takes anything back.
-/
import NumberRegistry.Database.Server

namespace NumberRegistry.Database

open Text

structure Migration where
  version : Int
  script : String
  /-- The SHA-384 digest of the script. -/
  checksum : Utf8.Bytes
  deriving DecidableEq, Repr

namespace Migration

/-- The table of numbers and its index. -/
def createNumbers : Migration where
  version := 20250101000000
  script := String.intercalate "\n" [
    "-- Numbers submitted through POST /numbers. Rows are never updated or deleted.",
    "CREATE TABLE IF NOT EXISTS numbers (",
    "    id UUID PRIMARY KEY DEFAULT gen_random_uuid(),",
    "    number INTEGER NOT NULL",
    ");",
    "",
    "-- Sorted read path",
    "CREATE INDEX IF NOT EXISTS idx_numbers_number ON numbers (number);",
    ""]
  checksum := [
    0x8b, 0xf5, 0x8f, 0x2b, 0xfa, 0xa5, 0xb5, 0x58, 0xc7, 0xdd, 0xed, 0xc0,
    0xb8, 0xe9, 0x76, 0x32, 0x05, 0xde, 0x5e, 0x1a, 0x32, 0x5d, 0x3e, 0x30,
    0x69, 0x8b, 0xad, 0xa2, 0x53, 0x64, 0x54, 0xca, 0xb8, 0x78, 0x05, 0x4f,
    0x22, 0x43, 0x2c, 0x4b, 0xd0, 0x18, 0xcc, 0x86, 0x98, 0x53, 0x73, 0x08]

/-- All migrations of the service, in the order in which they are applied. -/
def all : List Migration := [createNumbers]

/-- The checksum with which the server knows a version; the last row counts. -/
def applied? (version : Int) (applied : List AppliedMigration) : Option Utf8.Bytes :=
  (applied.reverse.find? (·.version = version)).map (·.checksum)

def executing {α : Type} (call : Call Error α) : Call MigrationError α :=
  call.adapt MigrationError.execute

def apply (m : Migration) : Call MigrationError Unit := do
  executing (Server.tell .begin)
  (Server.runScript m.script).adapt (MigrationError.executeMigration · m.version)
  executing (Server.recordMigration ⟨m.version, m.checksum, true⟩)
  executing (Server.tell .commit)
  executing (Server.tell .recordTime)

/-- Applies a migration unless it was applied before, unchanged. -/
def bring (applied : List AppliedMigration) (m : Migration) : Call MigrationError Unit :=
  match applied? m.version applied with
  | some checksum => if checksum = m.checksum then pure () else throw (.versionMismatch m.version)
  | none => m.apply

/-- An applied migration that is none of these. -/
def missing? (migrations : List Migration) (applied : List AppliedMigration) : Option Int :=
  (applied.find? fun a => migrations.all (·.version ≠ a.version)).map (·.version)

def bringAll (applied : List AppliedMigration) : List Migration → Call MigrationError Unit
  | [] => pure ()
  | m :: ms => do
    m.bring applied
    bringAll applied ms

/-- Goes on unless there is such a version. -/
def refuse (error : Int → MigrationError) : Option Int → Call MigrationError Unit
  | some version => throw (error version)
  | none => pure ()

def run (migrations : List Migration) : Call MigrationError Unit := do
  executing (Server.tell .currentDatabase)
  executing (Server.tell .lock)
  executing (Server.tell .createMigrationsTable)
  refuse .dirty (← executing Server.dirtyVersion)
  let applied ← executing Server.appliedMigrations
  refuse .versionMissing (missing? migrations applied)
  bringAll applied migrations
  executing (Server.tell .unlock)

end Migration

end NumberRegistry.Database
