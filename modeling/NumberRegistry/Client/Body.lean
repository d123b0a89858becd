/-
  NumberRegistry.Client.Body — what the client makes of a response's body.

  A body is an object with one member of the expected name, whatever else it holds, or a
  list of just that member's value.
-/
import NumberRegistry.Json.Reader

namespace NumberRegistry.Client

open Json Text

/-- The value of the only member of a name; `none` also if a member's name is no text. -/
def member? (name : String) (members : List (Option String × Value)) : Option Value :=
  if members.any (·.1 = none) then none
  else
    match members.filter (·.1 = some name) with
    | [(_, v)] => some v
    | _ => none

def field? (name : String) : Value → Option Value
  | .object members => member? name members
  | .array [v] => some v
  | _ => none

/-- A 32-bit integer written as one: without fraction, exponent or a minus before zero. -/
def int32? : Value → Option Int32
  | .number lexeme =>
    if lexeme = "-0" then none else (Decimal.parseInt32 lexeme.toList).toOption
  | _ => none

def int32s? : Value → Option (List Int32)
  | .array vs => vs.mapM int32?
  | _ => none

def text? : Value → Option String
  | .string t => t
  | _ => none

/-- The numbers that a body lists. -/
def numbers? (body : Utf8.Bytes) : Option (List Int32) := do
  let s ← (Utf8.decode? body).toOption
  let v ← Json.parse? (String.ofList s)
  int32s? (← field? "numbers" v)

/-- The message of an error body: its `error` member, or all of it. -/
def errorMessage (body : Utf8.Bytes) : String :=
  let s := String.ofList (Utf8.decodeLossy body)
  (((Json.parse? s).bind (field? "error")).bind text?).getD s

end NumberRegistry.Client
