/-
  NumberRegistry.Main — the program.

  It has no network of its own: no database is within its reach.
-/
import NumberRegistry.CommandLine.Run
import NumberRegistry.Log.Basic
import Std.Time.DateTime.Timestamp

namespace NumberRegistry.CommandLine

def textOf (bytes : ByteArray) : String := String.ofList (Text.Utf8.decodeLossy bytes.toList)

/-- The variables this process was started with. -/
def environment : IO Environment := do
  let text := textOf (← IO.FS.readBinFile "/proc/self/environ")
  return (text.splitOn "\x00").filterMap fun entry =>
    match entry.splitOn "=" with
    | name :: value :: rest => some (name, String.intercalate "=" (value :: rest))
    | _ => none

/-- The environment files of a directory and of so many above it. -/
def envFilesFrom (directory : String) : (above : Nat) → IO (List (Option String))
  | 0 => return []
  | above + 1 => do
    let file := match ← (IO.FS.readBinFile (directory ++ ".env")).toBaseIO with
      | .ok bytes => some (textOf bytes)
      | .error _ => none
    return file :: (← envFilesFrom (directory ++ "../") above)

def nearestEnvFile : IO (Option String) := do
  return EnvFile.nearest (← envFilesFrom "./" ((← IO.currentDir).toString.splitOn "/").length)

def uptime : IO Instant := do
  let seconds := (← IO.monoMsNow) / 1000
  return if h : seconds < Instant.count then ⟨seconds, h⟩ else .first

end NumberRegistry.CommandLine

open NumberRegistry CommandLine in
def main (args : List String) : IO UInt32 := do
  let nanos := (← Std.Time.Timestamp.now).toNanosecondsSinceUnixEpoch.val
  let report := run args {
      environment := ← environment
      envFile := ← nearestEnvFile
      now := ← uptime
      server := { reachable := false } } (Log.timestamp (nanos.toNat / 1000))
  IO.print report.output
  IO.eprint report.errors
  return UInt32.ofNat report.exit
