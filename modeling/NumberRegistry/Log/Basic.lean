/-
  NumberRegistry.Log.Basic — what is logged, the time of it, and a line of the log.
-/
import NumberRegistry.Json.Basic

namespace NumberRegistry.Log

open Text

inductive Level where
  | error
  | warn
  | info
  | debug
  | trace
  deriving DecidableEq, Repr

namespace Level

def name : Level → String
  | .error => "ERROR"
  | .warn => "WARN"
  | .info => "INFO"
  | .debug => "DEBUG"
  | .trace => "TRACE"

/-- How much detail a level stands for. -/
def detail : Level → Nat
  | .error => 1
  | .warn => 2
  | .info => 3
  | .debug => 4
  | .trace => 5

def all : List Level := [.error, .warn, .info, .debug, .trace]

end Level

inductive FieldValue where
  | text (s : String)
  | number (n : Nat)
  deriving DecidableEq, Repr

structure Event where
  level : Level
  target : String
  message : String
  fields : List (String × FieldValue) := []
  deriving DecidableEq, Repr

def FieldValue.shown : FieldValue → String
  | .text s => s
  | .number n => Decimal.ofNat n

def FieldValue.json : FieldValue → Json.Value
  | .text s => Json.Value.text s
  | .number n => .number (Decimal.ofNat n)

inductive Format where
  | plain
  | json
  deriving DecidableEq, Repr

namespace Event

def plainLine (e : Event) (time : String) : String :=
  let level := String.ofList (List.replicate (5 - e.level.name.length) ' ') ++ e.level.name
  let fields := e.fields.map fun (k, v) => " " ++ k ++ "=" ++ v.shown
  time ++ " " ++ level ++ " " ++ e.target ++ ": " ++ e.message ++ String.join fields ++ "\n"

def jsonLine (e : Event) (time : String) : String :=
  let fields := ("message", Json.Value.text e.message) :: e.fields.map fun (k, v) => (k, v.json)
  (Json.Value.ofMembers [("timestamp", .text time), ("level", .text e.level.name),
    ("fields", .ofMembers fields), ("target", .text e.target)]).print ++ "\n"

def line (e : Event) (format : Format) (time : String) : String :=
  match format with
  | .plain => e.plainLine time
  | .json => e.jsonLine time

end Event

/-! ## The time of an event -/

/-- A day of the calendar. -/
structure Day where
  year : Nat
  month : Nat
  day : Nat
  deriving DecidableEq, Repr

/-- The day so many days after the first of January 1970. Years are counted from March,
    so that the leap day comes last: 400 years have 146097 days, and the months from
    March on have 153 days for every five. -/
def Day.ofCount (count : Nat) : Day :=
  let days := count + 719468
  let dayOfEra := days % 146097
  let yearOfEra := (dayOfEra - dayOfEra / 1460 + dayOfEra / 36524 - dayOfEra / 146096) / 365
  let dayOfYear := dayOfEra - (365 * yearOfEra + yearOfEra / 4 - yearOfEra / 100)
  let fromMarch := (5 * dayOfYear + 2) / 153
  let month := if fromMarch < 10 then fromMarch + 3 else fromMarch - 9
  { year := days / 146097 * 400 + yearOfEra + (if month ≤ 2 then 1 else 0)
    month
    day := dayOfYear - (153 * fromMarch + 2) / 5 + 1 }

def padded (width n : Nat) : String :=
  let digits := Decimal.ofNat n
  String.ofList (List.replicate (width - digits.length) '0') ++ digits

/-- The time so many microseconds after the start of 1970. -/
def timestamp (micros : Nat) : String :=
  let seconds := micros / 1000000
  let d := Day.ofCount (seconds / 86400)
  padded 4 d.year ++ "-" ++ padded 2 d.month ++ "-" ++ padded 2 d.day ++ "T" ++
    padded 2 (seconds / 3600 % 24) ++ ":" ++ padded 2 (seconds / 60 % 60) ++ ":" ++
    padded 2 (seconds % 60) ++ "." ++ padded 6 (micros % 1000000) ++ "Z"

end NumberRegistry.Log
