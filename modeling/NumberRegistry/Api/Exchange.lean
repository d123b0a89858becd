/-
  NumberRegistry.Api.Exchange — a request on its way to its answer.

  Adding a number is two calls to the store, the insert and the read, with nothing to
  hold them together: other requests may come between them, either can fail, and the
  deadline can pass before either. What the insert did stays done. An exchange goes on
  by itself from phase to phase (`Exchange.advance`), and each phase knows when it ends:
  when its store call returns or at the deadline, whichever is first, the deadline
  winning a tie.
-/
import NumberRegistry.Api.Query
import NumberRegistry.Api.Routes
import NumberRegistry.Metrics
import NumberRegistry.Store.Script
import NumberRegistry.Text.Outline

namespace NumberRegistry.Api

open Http

/-- What all exchanges share. -/
structure Service where
  store : Store.Memory := {}
  script : Store.Script := {}
  metrics : Metrics := {}
  /-- Whether `/metrics` has anything to show. -/
  exposed : Bool := false

inductive Phase where
  | arriving
  /-- The store returns from the call at `wake`, if ever, and then fails or acts. -/
  | inserting (value : Int32) (wake : Store.Delay) (failure : Option Store.Error)
  | listing (wake : Store.Delay) (failure : Option Store.Error)
  | pinging (wake : Store.Delay) (failure : Option Store.Error)
  | answered (time : Nat) (response : Response)

structure Exchange where
  request : Request
  arrival : Nat
  deadline : Nat
  phase : Phase := .arriving

namespace Exchange

def due (e : Exchange) : Nat := e.arrival + e.deadline

/-- When a store call that returns at `wake` is over for this exchange. -/
def callEnd (e : Exchange) (wake : Store.Delay) : Nat := wake.elim e.due (min e.due)

/-- When the exchange goes on. -/
def nextTime (e : Exchange) : Option Nat :=
  match e.phase with
  | .arriving => some e.arrival
  | .inserting _ wake _ => some (e.callEnd wake)
  | .listing wake _ => some (e.callEnd wake)
  | .pinging wake _ => some (e.callEnd wake)
  | .answered _ _ => none

def answer (e : Exchange) (time : Nat) (response : Response) : Exchange :=
  { e with phase := .answered time (forMethod e.request response) }

def timeOut (e : Exchange) (time : Nat) : Exchange :=
  e.answer time { Response.bare 408 with allow := allowOf e.request }

def timed (s : Service) : Service :=
  { s with metrics := s.metrics.countLatency Metrics.addNumber }

/-- The request's handler starts at the time of arrival. -/
def start (e : Exchange) (s : Service) : Exchange × Service :=
  match actionOf e.request with
  | .answer response => (e.answer e.arrival response, s)
  | .exposition =>
    if s.exposed then
      (e.answer e.arrival (.withBody 200 "text/plain; charset=utf-8"
        ("\n".intercalate s.metrics.exposition)), s)
    else (e.answer e.arrival (.bare 404), s)
  | .ping =>
    let (plan, script) := s.script.takePing
    ({ e with phase := .pinging (plan.delay.map (e.arrival + ·)) plan.failure }, { s with script })
  | .add query =>
    match numberOf query with
    | .error cause => (e.answer e.arrival (Error.invalidParams cause.message).response, timed s)
    | .ok n =>
      let (plan, script) := s.script.takeInsert
      ({ e with phase := .inserting n (plan.delay.map (e.arrival + ·)) plan.failure },
        { s with script })

def insertFailed (e : Exchange) (time : Nat) (cause : Store.Error) (s : Service) :
    Exchange × Service :=
  (e.answer time (Error.insert cause).response,
    timed { s with metrics := s.metrics.countStoreError "insert" })

/-- The insert happens, and the read is called. -/
def insert (e : Exchange) (time : Nat) (value : Int32) (failure : Option Store.Error)
    (s : Service) : Exchange × Service :=
  match failure with
  | some cause => e.insertFailed time cause s
  | none =>
    match s.store.insert value with
    | (.error cause, store) => e.insertFailed time cause { s with store }
    | (.ok _, store) =>
      let (plan, script) := s.script.takeList
      ({ e with phase := .listing (plan.delay.map (time + ·)) plan.failure },
        { s with store, script, metrics := s.metrics.countInserted })

def listFailed (e : Exchange) (time : Nat) (cause : Store.Error) (s : Service) :
    Exchange × Service :=
  (e.answer time (Error.list cause).response,
    timed { s with metrics := s.metrics.countStoreError "list" })

def list (e : Exchange) (time : Nat) (failure : Option Store.Error) (s : Service) :
    Exchange × Service :=
  match failure with
  | some cause => e.listFailed time cause s
  | none =>
    match s.store.listSorted with
    | .error cause => e.listFailed time cause s
    | .ok records =>
      (e.answer time (jsonResponse 200 (numbersBody (records.map (·.value)))), timed s)

def ping (e : Exchange) (time : Nat) (failure : Option Store.Error) (s : Service) :
    Exchange × Service :=
  match failure with
  | some cause => (e.answer time (jsonResponse 503 (readyBody (.error cause))), s)
  | none =>
    let (result, store) := s.store.ping
    (e.answer time (jsonResponse (if result.isOk then 200 else 503) (readyBody result)),
      { s with store })

/-- The exchange's next step. A deadline of nothing has passed before the handler starts. -/
def advance (e : Exchange) (s : Service) : Exchange × Service :=
  match e.phase with
  | .arriving => if e.deadline = 0 then (e.timeOut e.arrival, s) else e.start s
  | .inserting value wake failure =>
    match wake with
    | some t => if t < e.due then e.insert t value failure s else (e.timeOut e.due, timed s)
    | none => (e.timeOut e.due, timed s)
  | .listing wake failure =>
    match wake with
    | some t => if t < e.due then e.list t failure s else (e.timeOut e.due, timed s)
    | none => (e.timeOut e.due, timed s)
  | .pinging wake failure =>
    match wake with
    | some t => if t < e.due then e.ping t failure s else (e.timeOut e.due, s)
    | none => (e.timeOut e.due, s)
  | .answered _ _ => (e, s)

/-- How many steps are left at most. -/
def rank (e : Exchange) : Nat :=
  match e.phase with
  | .arriving => 3
  | .inserting _ _ _ => 2
  | .listing _ _ => 1
  | .pinging _ _ => 1
  | .answered _ _ => 0

end Exchange

/-! ## The shared state as a term, for diagnosis

Of the metrics it only says whether there is anything to show.
-/

section

open Text

def outlineBool (b : Bool) : Outline := .atom (if b then "true" else "false")

def outlineFailures (f : Store.Failures) : Outline :=
  .record "MockStoreConfig" [
    ("fail_insert", outlineBool f.insert),
    ("fail_list", outlineBool f.list),
    ("fail_ping", outlineBool f.ping)] false

/-- A store without records. -/
def outlineEmptyStore (m : Store.Memory) : Outline :=
  .record "MemoryNumberStore" [
    ("config", outlineFailures m.failures),
    ("records", .record "Mutex" [("data", .atom "[]"), ("poisoned", outlineBool false)] true),
    ("pings", .atom (Decimal.ofNat m.pings))] false

def Service.outline (s : Service) : Outline :=
  .record "AppState" [("store", outlineEmptyStore s.store), ("metrics", outlineBool s.exposed)] false

end

end NumberRegistry.Api
