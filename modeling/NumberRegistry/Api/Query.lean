/-
  NumberRegistry.Api.Query — the parameters of a request to add a number.

  The query holds exactly one pair with the key `number`, whose value is a 32-bit integer.
  Pairs are looked at in order: a repeated key is refused before its value is read.
-/
import NumberRegistry.Http.Form
import NumberRegistry.Text.Decimal

namespace NumberRegistry.Api

open Text Http

inductive QueryError where
  | missing
  | duplicate
  | badNumber (cause : Decimal.ParseError)
  deriving DecidableEq, Repr

namespace QueryError

def cause : QueryError → String
  | .missing => "missing field \x60number\x60"
  | .duplicate => "duplicate field \x60number\x60"
  | .badNumber cause => cause.message

def message (e : QueryError) : String := "Failed to deserialize query string: " ++ e.cause

end QueryError

def readNumber (found : Option Int32) : List (String × String) → Except QueryError Int32
  | [] => found.elim (.error .missing) .ok
  | (key, value) :: rest =>
    if key = "number" then
      match found with
      | some _ => .error .duplicate
      | none =>
        match Decimal.parseInt32 value.toList with
        | .ok n => readNumber (some n) rest
        | .error e => .error (.badNumber e)
    else readNumber found rest

/-- The number that a request's query asks to add. -/
def numberOf (query : Option String) : Except QueryError Int32 :=
  readNumber none (Form.decode (query.getD ""))

end NumberRegistry.Api
