/-
  NumberRegistry.Client.Error — why a call of the client has no result.
-/
import NumberRegistry.Url.Basic

namespace NumberRegistry.Client

open Text

/-- Why an exchange with a server came to nothing. -/
inductive TransportError where
  /-- No request can be made for the URL. -/
  | builder (url : Url)
  /-- The request could not be sent, or was not answered. -/
  | sending (url : Url)
  /-- Redirected too often. -/
  | redirects (url : Url)
  /-- The body is not what it should be. -/
  | body
  deriving DecidableEq, Repr

def TransportError.message : TransportError → String
  | .builder url => "builder error for url (" ++ url.text ++ ")"
  | .sending url => "error sending request for url (" ++ url.text ++ ")"
  | .redirects url => "error following redirect for url (" ++ url.text ++ ")"
  | .body => "error decoding response body"

inductive Error where
  | http (cause : TransportError)
  | url (cause : Url.ParseError)
  /-- The service answered with another status than success. -/
  | api (status : Nat) (message : String)
  deriving DecidableEq, Repr

namespace Error

def message : Error → String
  | .http cause => "http error: " ++ cause.message
  | .url cause => "invalid url: " ++ cause.message
  | .api status text => "service returned " ++ Decimal.ofNat status ++ ": " ++ text

def sources : Error → List String
  | .http cause => [cause.message]
  | .url cause => [cause.message]
  | .api _ _ => []

end Error

end NumberRegistry.Client
