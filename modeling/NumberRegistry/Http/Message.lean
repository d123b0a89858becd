/-
  NumberRegistry.Http.Message — requests and responses.

  A request is built from texts: method, then target, then headers; the first text that
  cannot be one decides. Of a response only the headers the service sets are kept.
-/
import NumberRegistry.Http.Target

namespace NumberRegistry.Http

open Text

structure Request where
  method : String
  target : Target
  headers : List (String × String) := []
  body : String := ""
  deriving DecidableEq, Repr

inductive BuildError where
  | method
  | target (cause : TargetError)
  | headerName
  | headerValue
  deriving DecidableEq, Repr

def BuildError.message : BuildError → String
  | .method => "invalid HTTP method"
  | .target cause => cause.message
  | .headerName => "invalid HTTP header name"
  | .headerValue => "failed to parse header value"

def isTokenChar (c : Char) : Bool := c.isAlphanum || "!#$%&'*+-.^_\x60|~".toList.contains c

def isToken (s : String) : Bool := s ≠ "" && s.toList.all isTokenChar

/-- Any text without control characters; a tab is none. -/
def isHeaderValue (s : String) : Bool :=
  s.toList.all fun c => c == '\t' || (0x20 ≤ c.toNat && c.toNat ≠ 0x7F)

def checkHeaders : List (String × String) → Except BuildError Unit
  | [] => .ok ()
  | (name, value) :: rest =>
    if !isToken name then .error .headerName
    else if !isHeaderValue value then .error .headerValue
    else checkHeaders rest

def Request.build (method uri : String) (headers : List (String × String)) (body : String) :
    Except BuildError Request := do
  if !isToken method then throw .method
  let target ← (Target.parse uri).mapError .target
  checkHeaders headers
  return { method, target, headers, body }

structure Response where
  status : Nat
  contentType : Option String := none
  allow : Option String := none
  location : Option String := none
  body : String := ""
  /-- The length the response states for its body. -/
  contentLength : Nat := 0
  deriving DecidableEq, Repr

namespace Response

/-- A response that is only a status. -/
def bare (status : Nat) : Response := { status }

def withBody (status : Nat) (contentType body : String) : Response :=
  { status, contentType := some contentType, body, contentLength := body.utf8ByteSize }

/-- The answer to HEAD: as to GET, without the body. -/
def withoutBody (r : Response) : Response := { r with body := "" }

end Response

end NumberRegistry.Http
