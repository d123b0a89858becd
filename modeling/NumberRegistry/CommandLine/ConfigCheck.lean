/-
  NumberRegistry.CommandLine.ConfigCheck — the report on the settings, and how the program
  complains.

  The report says how loading and validating the settings went and, if both went well, what
  they come to. Passwords do not show. A complaint is an error and what caused it: causes
  are numbered if there are several, and what follows a line break in one is indented like
  its first line.
-/
import NumberRegistry.EnvFile.Load
import NumberRegistry.Settings.Validate

namespace NumberRegistry.CommandLine

open Text

/-! ## Complaints -/

/-- Why a command failed: a message, and the messages of the causes, outermost first. -/
structure Complaint where
  message : String
  causes : List String := []
  deriving DecidableEq, Repr

namespace Complaint

def spaces (n : Nat) : String := String.ofList (List.replicate n ' ')

def numbered (number : Nat) (cause : String) : String :=
  let n := Decimal.ofNat number
  spaces (5 - n.length) ++ n ++ ": " ++ cause.replace "\n" ("\n" ++ spaces 7)

def causeLines : List String → List String
  | [cause] => [spaces 4 ++ cause.replace "\n" ("\n" ++ spaces 4)]
  | causes => causes.mapIdx numbered

def text (c : Complaint) : String :=
  "Error: " ++ c.message ++
    (if c.causes.isEmpty then "" else
      "\n\nCaused by:\n" ++ String.intercalate "\n" (causeLines c.causes)) ++ "\n"

end Complaint

/-! ## The report -/

namespace ConfigCheck

def rule (c : Char) : String := String.ofList (List.replicate 70 c)

def heading : List String := [rule '=', "SORTED NUMBERS - CONFIGURATION CHECK", rule '=']

def summary (s : Settings) : List String :=
  let p := s.poolLimits
  [rule '-',
    "Configuration Summary:",
    "  Database: " ++ s.redactedDsn.getD "<unset>",
    "  Listen Address: " ++ s.serverAddr,
    "  Pool: " ++ Decimal.ofNat p.minConnections.toNat ++ ".." ++
      Decimal.ofNat p.maxConnections.toNat ++ " connections, lifetime " ++
      Settings.durationText p.maxLifetime ++ ", idle " ++ Settings.durationText p.maxIdle,
    "  Health Check Every: " ++ Settings.durationText p.healthCheckPeriod,
    "  Request Timeout: " ++ Settings.durationText s.requestTimeoutSecs,
    "  Shutdown Timeout: " ++ Settings.durationText s.shutdownTimeoutSecs,
    "  Log Level: " ++ s.logLevel,
    rule '=',
    "CONFIGURATION CHECK PASSED",
    rule '=']

/-- What is said of loaded settings, and what is wrong with them. -/
def ofSettings (s : Settings) : List String × Option Complaint :=
  match s.validate with
  | .ok _ => ("Validating configuration... OK" :: summary s, none)
  | .error e =>
    (["Validating configuration... FAILED", "  Error: " ++ e.message],
      some { message := "Configuration validation failed" })

/-- The lines of the report, and the complaint it ends in if there is one. -/
def report (loaded : Except Settings.Error Settings) : List String × Option Complaint :=
  match loaded with
  | .ok s =>
    let (lines, complaint) := ofSettings s
    (heading ++ "Loading configuration... OK" :: lines, complaint)
  | .error e =>
    (heading ++ ["Loading configuration... FAILED", "  Error: " ++ e.message],
      some { message := "Configuration load failed" })

end ConfigCheck

end NumberRegistry.CommandLine
