/-
  NumberRegistry.Client.Network — sending requests, and following where they lead.

  A network is what requests are sent into; it answers each from a state of its own. A
  redirection is followed up to ten times. Those that say so with 301, 302 or 303 turn
  every method but HEAD into GET.

  The service is a network of one server: a call reaches it as a request for the path and
  query of its URL, and it answers one call before the next.
-/
import NumberRegistry.Api.Run
import NumberRegistry.Client.Error
import NumberRegistry.Http.Target
import NumberRegistry.Text.Utf8
import NumberRegistry.Url.Resolve

namespace NumberRegistry.Client

open Text

structure Call where
  method : String
  url : Url
  deriving DecidableEq, Repr

inductive Reply where
  | response (status : Nat) (location : Option String) (body : Utf8.Bytes)
  /-- Nothing that is a response came back. -/
  | lost
  deriving DecidableEq, Repr

abbrev Network (σ : Type) := σ → Call → Reply × σ

/-- A network that reaches nobody. -/
def Network.down : Network Unit := fun s _ => (.lost, s)

/-- The URL without username and password: those travel in a header. -/
def withoutUserinfo (u : Url) : Url :=
  { u with authority := u.authority.map fun a => { a with username := "", password := none } }

/-- A call can be made to a host, over HTTP, if the URL can be written in a request. -/
def Call.check (c : Call) : Except TransportError Call :=
  if (c.url.scheme = "http" ∨ c.url.scheme = "https") ∧ (Http.Target.parse c.url.text).isOk then
    .ok c
  else .error (.builder c.url)

/-- The URL that calls go to, for the base and the name of an endpoint. -/
def endpoint (base : Url) (name : String) : Except Error Url := do
  let url ← (base.join name).mapError .url
  if url.host?.isNone then throw (.http (.builder url))
  return withoutUserinfo url

def isRedirect (status : Nat) : Bool := [301, 302, 303, 307, 308].contains status

def redirected (c : Call) (status : Nat) (url : Url) : Call :=
  if status = 307 ∨ status = 308 ∨ c.method = "HEAD" then ⟨c.method, url⟩ else ⟨"GET", url⟩

/-- What a call ends in: a status and a body. -/
abbrev Outcome := Except TransportError (Nat × Utf8.Bytes)

/-- Sends a call and follows at most `fuel` redirections. -/
def follow {σ : Type} (network : Network σ) : (fuel : Nat) → σ → Call → Outcome × σ
  | fuel, s, c =>
    match network s c with
    | (.lost, s) => (.error (.sending c.url), s)
    | (.response status location body, s) =>
      match location.bind fun l => if isRedirect status then (c.url.resolve l).toOption else none with
      | none => (.ok (status, body), s)
      | some url =>
        match fuel with
        | 0 => (.error (.redirects url), s)
        | fuel + 1 =>
          match (redirected c status (withoutUserinfo url)).check with
          | .error e => (.error e, s)
          | .ok c => follow network fuel s c

def send {σ : Type} (network : Network σ) (s : σ) (c : Call) : Outcome × σ :=
  match c.check with
  | .error e => (.error e, s)
  | .ok c => follow network 10 s c

/-! ## The service as a network -/

/-- What a server is asked for a URL. -/
def targetOf (u : Url) : Http.Target := ⟨u.path.text, u.query⟩

def requestOf (c : Call) : Http.Request := { method := c.method, target := targetOf c.url }

def replyOf (r : Http.Response) : Reply :=
  .response r.status r.location (Utf8.encode r.body.toList)

/-- The service with so many milliseconds for each request. -/
def Network.ofService (deadline : Nat) : Network Api.Service := fun s c =>
  let run := Api.Run.finish ⟨s, [{ request := requestOf c, arrival := 0, deadline }]⟩
  (run.responses.head?.elim .lost replyOf, run.service)

end NumberRegistry.Client
