/-
  NumberRegistry.Metrics — what the service counts, and the exposition of it.

  A metric shows up once something was counted for it: a line with its help text if the
  metrics were described, one with its type, and one for each label. Measured times are
  left out; of the latencies only their number is kept.
-/
import NumberRegistry.Text.Decimal

namespace NumberRegistry

open Text

structure Metrics where
  described : Bool := false
  inserted : Nat := 0
  healthFailures : Nat := 0
  /-- Failed store operations, by operation. -/
  storeErrors : List (String × Nat) := []
  /-- Timed requests, by endpoint. -/
  latencies : List (String × Nat) := []
  deriving DecidableEq, Repr

namespace Metrics

def latencyName : String := "http_request_latency_ms"
def insertedName : String := "numbers_inserted_total"
def storeErrorsName : String := "store_errors_total"
def healthFailuresName : String := "db_health_check_failures_total"

/-- The endpoint that adding a number is timed under. -/
def addNumber : String := "add_number"

def describe (m : Metrics) : Metrics := { m with described := true }

/-- Counts one more for a label. -/
def bump (label : String) : List (String × Nat) → List (String × Nat)
  | [] => [(label, 1)]
  | (l, n) :: rest => if l = label then (l, n + 1) :: rest else (l, n) :: bump label rest

/-- What was counted for a label. -/
def count (label : String) : List (String × Nat) → Nat
  | [] => 0
  | (l, n) :: rest => if l = label then n else count label rest

theorem count_bump (label l : String) (counts : List (String × Nat)) :
    count l (bump label counts) = count l counts + if label = l then 1 else 0 := by
  induction counts with
  | nil => simp [count, bump]
  | cons p rest ih =>
    simp only [bump]
    by_cases hk : p.1 = label
    · subst hk
      by_cases h : p.1 = l <;> simp [count, h]
    · by_cases h : p.1 = l
      · subst h
        simp [count, hk, Ne.symm hk]
      · simp [count, hk, h, ih]

def countInserted (m : Metrics) : Metrics := { m with inserted := m.inserted + 1 }

def countHealthFailure (m : Metrics) : Metrics := { m with healthFailures := m.healthFailures + 1 }

def countStoreError (operation : String) (m : Metrics) : Metrics :=
  { m with storeErrors := bump operation m.storeErrors }

def countLatency (endpoint : String) (m : Metrics) : Metrics :=
  { m with latencies := bump endpoint m.latencies }

/-- A label's value as written. A backslash counts as escaping the backslash or quote
    after it and is then not escaped itself; `held` tells that one was just read. -/
def escapeLabel (held : Bool) : List Char → List Char
  | [] => if held then ['\\', '\\'] else []
  | '\n' :: cs => '\\' :: 'n' :: escapeLabel held cs
  | '"' :: cs => '\\' :: '"' :: escapeLabel false cs
  | '\\' :: cs => if held then '\\' :: '\\' :: escapeLabel false cs else escapeLabel true cs
  | c :: cs => if held then '\\' :: '\\' :: c :: escapeLabel false cs else c :: escapeLabel false cs

def labelled (name label : String) (count : String × Nat) : String :=
  name ++ "\x7b" ++ label ++ "=\"" ++ String.ofList (escapeLabel false count.1.toList) ++ "\"\x7d " ++
    Decimal.ofNat count.2

def plain (name : String) (n : Nat) : List String :=
  if n = 0 then [] else [name ++ " " ++ Decimal.ofNat n]

/-- The lines of one metric, if it has any values. -/
def family (m : Metrics) (name kind help : String) (values : List String) : List String :=
  if values = [] then []
  else
    (if m.described then ["# HELP " ++ name ++ " " ++ help] else []) ++
      ("# TYPE " ++ name ++ " " ++ kind) :: values

/-- All lines, in the order of their characters. -/
def exposition (m : Metrics) : List String :=
  (m.family latencyName "summary" "HTTP request latency in milliseconds"
      (m.latencies.map (labelled (latencyName ++ "_count") "endpoint")) ++
    m.family insertedName "counter" "Total number of values stored" (plain insertedName m.inserted) ++
    m.family storeErrorsName "counter" "Total number of failed store operations"
      (m.storeErrors.map (labelled storeErrorsName "operation")) ++
    m.family healthFailuresName "counter" "Total number of failed background database pings"
      (plain healthFailuresName m.healthFailures)).mergeSort fun a b => decide (a ≤ b)

end Metrics

end NumberRegistry
