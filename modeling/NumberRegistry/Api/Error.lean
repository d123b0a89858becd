/-
  NumberRegistry.Api.Error — why a request to add a number is turned down, and the
  bodies of all answers.
-/
import NumberRegistry.Failure
import NumberRegistry.Http.Message
import NumberRegistry.Json.Basic
import NumberRegistry.Text.Quoted

namespace NumberRegistry.Api

open Http Text

inductive Error where
  | invalidParams (text : String)
  /-- The insert failed. Whether the number was stored is for the store to say. -/
  | insert (cause : Store.Error)
  /-- The number was stored, but the numbers could not be read back. -/
  | list (cause : Store.Error)
  deriving DecidableEq, Repr

namespace Error

def message : Error → String
  | .invalidParams text => text
  | .insert cause => "failed to insert number: " ++ cause.message
  | .list cause => "failed to get numbers: " ++ cause.message

def sources : Error → List String
  | .invalidParams _ => []
  | .insert cause => cause.message :: cause.sources
  | .list cause => cause.message :: cause.sources

def status : Error → Nat
  | .invalidParams _ => 400
  | .insert _ => 500
  | .list _ => 500

/-- A short label for logs. -/
def kind : Error → String
  | .invalidParams _ => "invalid_params"
  | .insert _ => "store_insert"
  | .list _ => "store_list"

/-- The error as a term; there is none for what the database driver holds. -/
def term? : Error → Option String
  | .invalidParams text => some ("InvalidParams(" ++ Quoted.encode text ++ ")")
  | .insert (.unavailable t) => some ("Insert(Unavailable(" ++ Quoted.encode t ++ "))")
  | .list (.unavailable t) => some ("List(Unavailable(" ++ Quoted.encode t ++ "))")
  | _ => none

end Error

/-! ## Bodies -/

def numbersBody (values : List Int32) : Json.Value :=
  .ofMembers [("numbers", .array (values.map .integer))]

def errorBody (message : String) : Json.Value := .ofMembers [("error", .text message)]

def healthBody : Json.Value := .ofMembers [("status", .text "ok")]

def readyBody (result : Except Store.Error Unit) : Json.Value :=
  match result with
  | .ok _ => .ofMembers [("ready", .bool true)]
  | .error e => .ofMembers [("ready", .bool false), ("error", .text e.message)]

def jsonResponse (status : Nat) (body : Json.Value) : Response :=
  .withBody status "application/json" body.print

def Error.response (e : Error) : Response := jsonResponse e.status (errorBody e.message)

end NumberRegistry.Api
