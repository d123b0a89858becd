/-
  NumberRegistry.Serving — serving connections until a signal, and draining them then.

  Every connection is a task, and the server owns the set of them. It goes on in turns.
  Up to the signal a turn takes in the next client that waits, or takes a task that has
  ended out of the set. The turn that finds the signal closes the listener and gives the
  notice to drain. From there on its turns only take tasks out. With the set empty the
  server returns; when the grace period is over before that, it cuts off the tasks that
  are left, with all they are doing, and returns once they are gone too.

  A connection that sees the notice ends at once if nothing of a request has come on it,
  and otherwise with the answer to that request.

  What comes from outside is events: clients and their bytes, the store, the signal, the
  time, and whose turn it is. A connection sees the notice at an event of its own, some
  time after it was given, be that the first thing its task does.
-/
import NumberRegistry.Store.Basic

namespace NumberRegistry

namespace Serving

/-- How a server comes to its end. -/
inductive Outcome where
  | graceful
  | timedOut
  deriving DecidableEq, Repr

inductive Phase where
  | accepting
  /-- The notice is given. -/
  | draining
  /-- The grace period is over, and the tasks that were left are cut off. -/
  | aborting
  | returned (outcome : Outcome)
  deriving DecidableEq, Repr

/-- What the listener has to give. -/
inductive Incoming where
  | client
  | failure
  deriving DecidableEq, Repr

/-- What a request that has come whole still needs. -/
inductive Work where
  /-- Its number has to be stored. -/
  | storing (value : Int32)
  /-- Nothing but its answer. -/
  | answering
  deriving DecidableEq, Repr

inductive Stage where
  /-- Nothing of a request has come. -/
  | idle
  /-- Part of a request has come. -/
  | receiving
  | handling (request : Nat) (work : Work)
  deriving DecidableEq, Repr

structure Connection where
  id : Nat
  stage : Stage := .idle
  /-- Whether it ends after the request it is at. -/
  last : Bool := false
  /-- Whether it has seen the notice to drain. -/
  noticed : Bool := false
  /-- Whether it is cut off. It does nothing any more, and goes when its task is dropped. -/
  cut : Bool := false
  deriving DecidableEq, Repr

/-- How a connection comes to its end. -/
inductive Ending where
  | answered
  | hungUp
  /-- It saw the notice with nothing of a request on it. -/
  | idle
  | cut
  deriving DecidableEq, Repr

structure Ended where
  connection : Nat
  /-- Whether it was at a request when it saw the notice. -/
  busy : Bool
  ending : Ending
  deriving DecidableEq, Repr

/-- A request that has come whole, and what it asks for. -/
structure Begun where
  request : Nat
  connection : Nat
  work : Work
  deriving DecidableEq, Repr

/-- A request whose insert the store has taken. -/
structure Completed where
  request : Nat
  record : Store.Record Nat
  deriving DecidableEq, Repr

structure Answer where
  connection : Nat
  request : Nat
  /-- Whether the answer says that the connection ends. -/
  close : Bool
  deriving DecidableEq, Repr

end Serving

structure Serving where
  phase : Serving.Phase := .accepting
  signalled : Bool := false
  /-- Whether the grace period is over. -/
  expired : Bool := false
  /-- What waits at the listener. -/
  incoming : List Serving.Incoming := []
  /-- The connections whose tasks run. -/
  connections : List Serving.Connection := []
  /-- The set of tasks: those that were started and not yet taken out. -/
  owned : List Nat := []
  nextConnection : Nat := 0
  nextRequest : Nat := 0
  store : Store.Memory := {}
  begun : List Serving.Begun := []
  completed : List Serving.Completed := []
  answers : List Serving.Answer := []
  ended : List Serving.Ended := []
  deriving DecidableEq, Repr

namespace Serving

inductive Event where
  /-- A client connects. -/
  | connect
  /-- A connection could not be taken in. -/
  | acceptFailed
  | signal
  /-- The grace period is over. -/
  | expire
  /-- The server goes on. -/
  | turn
  /-- Part of a request comes, but not all of it. -/
  | part (connection : Nat)
  /-- A request has come whole; `close` if it asks that the connection end with it. -/
  | request (connection : Nat) (work : Work) (close : Bool)
  /-- The store goes on with the insert of the request at hand. -/
  | storeDone (connection : Nat)
  /-- The request at hand is answered, be it because it has taken too long. -/
  | answer (connection : Nat)
  /-- The client closes the connection. -/
  | hangUp (connection : Nat)
  /-- The connection sees that it has to drain. -/
  | notice (connection : Nat)
  /-- The task of a connection that is cut off is dropped. -/
  | dropped (connection : Nat)
  deriving DecidableEq, Repr

/-! ## Connections -/

def connection? (s : Serving) (id : Nat) : Option Connection := s.connections.find? (·.id = id)

def put (s : Serving) (c : Connection) : Serving :=
  { s with connections := s.connections.map fun other => if other.id = c.id then c else other }

/-- Ends a connection, with what it is doing. -/
def finish (s : Serving) (c : Connection) (ending : Ending) : Serving :=
  { s with
    connections := s.connections.filter (·.id ≠ c.id)
    ended := s.ended ++ [⟨c.id, c.noticed, ending⟩] }

def begin (s : Serving) (c : Connection) (work : Work) (close : Bool) : Serving :=
  { s.put { c with stage := .handling s.nextRequest work, last := c.last || close } with
    nextRequest := s.nextRequest + 1
    begun := s.begun ++ [⟨s.nextRequest, c.id, work⟩] }

def insert (s : Serving) (c : Connection) (request : Nat) (value : Int32) : Serving :=
  let after := s.put { c with stage := .handling request .answering }
  match s.store.insert value with
  | (.ok record, store) => { after with store, completed := s.completed ++ [⟨request, record⟩] }
  | (.error _, store) => { after with store }

def respond (s : Serving) (c : Connection) (request : Nat) : Serving :=
  let s : Serving := { s with answers := s.answers ++ [⟨c.id, request, c.last⟩] }
  if c.last then s.finish c .answered else s.put { c with stage := .idle }

/-- A connection sees the notice, if it is given, and only once. -/
def see (s : Serving) (c : Connection) : Serving :=
  if s.phase = .accepting ∨ c.noticed then s
  else if c.stage = .idle then s.finish c .idle
  else s.put { c with last := true, noticed := true }

/-- What an event of a connection does; at the wrong stage it does nothing. -/
def onConnection (s : Serving) (c : Connection) : Event → Serving
  | .part _ => if c.stage = .idle then s.put { c with stage := .receiving } else s
  | .request _ work close =>
    match c.stage with
    | .handling _ _ => s
    | _ => s.begin c work close
  | .storeDone _ =>
    match c.stage with
    | .handling request (.storing value) => s.insert c request value
    | _ => s
  | .answer _ =>
    match c.stage with
    | .handling request _ => s.respond c request
    | _ => s
  | .hangUp _ => s.finish c .hungUp
  | .notice _ => s.see c
  | _ => s

/-- All that is left for a connection that is cut off. -/
def onCut (s : Serving) (c : Connection) : Event → Serving
  | .dropped _ => s.finish c .cut
  | _ => s

/-! ## The server -/

/-- Takes in what the listener gives. -/
def accept (s : Serving) : Incoming → Serving
  | .client =>
    { s with
      connections := s.connections ++ [{ id := s.nextConnection }]
      owned := s.owned ++ [s.nextConnection]
      nextConnection := s.nextConnection + 1 }
  | .failure => s

def isRunning (s : Serving) (id : Nat) : Bool := s.connections.any (·.id = id)

/-- Takes a task that has ended out of the set, if there is one. -/
def joinNext (s : Serving) : Option Serving :=
  if s.owned.any (!s.isRunning ·) then some { s with owned := s.owned.eraseP (!s.isRunning ·) }
  else none

/-- The listener is closed, and who waits at it is not taken in. -/
def stop (s : Serving) : Serving := { s with phase := .draining, incoming := [] }

/-- Cuts off all that runs. -/
def abortAll (s : Serving) : Serving :=
  { s with phase := .aborting, connections := s.connections.map ({ · with cut := true }) }

/-- The signal is looked for before the listener, and the listener before the set; while
    draining, the set before the time. -/
def turn (s : Serving) : Serving :=
  match s.phase with
  | .accepting =>
    if s.signalled then s.stop
    else
      match s.incoming with
      | next :: rest => { s with incoming := rest }.accept next
      | [] => s.joinNext.getD s
  | .draining =>
    s.joinNext.getD
      (if s.owned = [] then { s with phase := .returned .graceful }
      else if s.expired then s.abortAll
      else s)
  | .aborting => s.joinNext.getD (if s.owned = [] then { s with phase := .returned .timedOut } else s)
  | .returned _ => s

/-- A closed listener gets no clients, and the grace period begins with the notice. -/
def onServer (s : Serving) : Event → Serving
  | .connect => if s.phase = .accepting then { s with incoming := s.incoming ++ [.client] } else s
  | .acceptFailed => if s.phase = .accepting then { s with incoming := s.incoming ++ [.failure] } else s
  | .signal => { s with signalled := true }
  | .expire => if s.phase = .draining then { s with expired := true } else s
  | .turn => s.turn
  | _ => s

/-- The connection an event belongs to. -/
def Event.connection? : Event → Option Nat
  | .part c | .request c _ _ | .storeDone c | .answer c | .hangUp c | .notice c | .dropped c => some c
  | .connect | .acceptFailed | .signal | .expire | .turn => none

def step (s : Serving) (e : Event) : Serving :=
  match e.connection? with
  | some id =>
    match s.connection? id with
    | some c => if c.cut then s.onCut c e else s.onConnection c e
    | none => s
  | none => s.onServer e

def run (s : Serving) (es : List Event) : Serving := es.foldl step s

/-- A server that has served nothing yet. -/
def opening (store : Store.Memory) : Serving := { store }

/-- The signal, seen by the server and then by every connection. -/
def drain (s : Serving) : Serving :=
  s.run (.signal :: .turn :: s.connections.map fun c => .notice c.id)

def outcome? (s : Serving) : Option Outcome :=
  match s.phase with
  | .returned outcome => some outcome
  | _ => none

end Serving

end NumberRegistry
