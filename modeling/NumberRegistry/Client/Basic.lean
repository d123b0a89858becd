/-
  NumberRegistry.Client.Basic — a client of the service.

  A client has a base URL that ends in a slash; its endpoints stand below that.
-/
import NumberRegistry.Client.Body
import NumberRegistry.Client.Network
import NumberRegistry.Http.Form

namespace NumberRegistry

open Text

structure Client where
  base : Url
  deriving DecidableEq, Repr

namespace Client

def new (base : String) : Except Error Client :=
  match Url.parse base with
  | .ok url => .ok ⟨url.asDirectory⟩
  | .error e => .error (.url e)

def addCall (c : Client) (value : Int32) : Except Error Call := do
  let url ← endpoint c.base "numbers"
  return ⟨"POST", { url with query := some (Http.Form.encode [("number", Decimal.ofInt value.toInt)]) }⟩

def readyCall (c : Client) : Except Error Call := do
  return ⟨"GET", ← endpoint c.base "ready"⟩

/-- What an answer to a call to add a number means. -/
def addResult (status : Nat) (body : Utf8.Bytes) : Except Error (List Int32) :=
  if status = 200 then
    match numbers? body with
    | some ns => .ok ns
    | none => .error (.http .body)
  else .error (.api status (errorMessage body))

/-- Stores a number and gives all numbers in ascending order. -/
def addNumber {σ : Type} (c : Client) (network : Network σ) (s : σ) (value : Int32) :
    Except Error (List Int32) × σ :=
  match c.addCall value with
  | .error e => (.error e, s)
  | .ok call =>
    match send network s call with
    | (.error e, s) => (.error (.http e), s)
    | (.ok (status, body), s) => (addResult status body, s)

/-- Whether the service says that its store is in reach. -/
def isReady {σ : Type} (c : Client) (network : Network σ) (s : σ) : Except Error Bool × σ :=
  match c.readyCall with
  | .error e => (.error e, s)
  | .ok call =>
    match send network s call with
    | (.error e, s) => (.error (.http e), s)
    | (.ok (status, _), s) => (.ok (status == 200), s)

end Client

end NumberRegistry
