/-
  NumberRegistry.Api.Document — the description of the API that the service serves.

  The operations, what they may answer and the shape of each body are values here; the
  served document is made from them (OpenAPI 3.1).
-/
import NumberRegistry.Json.Reader

namespace NumberRegistry.Api.Document

open Json (Value)

inductive Schema where
  | int32
  | boolean
  | string
  | nullableString
  | array (item : Schema)
  deriving DecidableEq, Repr

structure Property where
  name : String
  schema : Schema
  description : Option String := none
  required : Bool := true
  deriving DecidableEq, Repr

/-- The shape of an object. -/
structure Shape where
  name : String
  description : String
  properties : List Property
  deriving DecidableEq, Repr

structure Reply where
  status : Nat
  description : String
  body : Shape
  deriving DecidableEq, Repr

structure Parameter where
  name : String
  description : String
  schema : Schema
  deriving DecidableEq, Repr

structure Operation where
  path : String
  method : String
  id : String
  summary : String
  tag : String
  parameters : List Parameter := []
  replies : List Reply
  deriving DecidableEq, Repr

/-! ## The operations -/

def numbersShape : Shape where
  name := "NumbersResponse"
  description := "Every stored value in ascending order."
  properties := [{ name := "numbers", schema := .array .int32 }]

def errorShape : Shape where
  name := "ErrorResponse"
  description := "Error body."
  properties := [{
    name := "error", schema := .string
    description := some "Human-readable message wrapping the underlying cause." }]

def healthShape : Shape where
  name := "HealthResponse"
  description := "Health check response."
  properties := [{
    name := "status", schema := .string, description := some "Status: \"ok\"." }]

def readyShape : Shape where
  name := "ReadyResponse"
  description := "Readiness check response."
  properties := [
    { name := "ready", schema := .boolean
      description := some "Whether the store answered a ping." },
    { name := "error", schema := .nullableString
      description := some "Ping failure, if any.", required := false }]

def shapes : List Shape := [numbersShape, errorShape, healthShape, readyShape]

def addNumber : Operation where
  path := "/numbers"
  method := "post"
  id := "add_number"
  summary := "Add a number and return all stored numbers sorted ascending."
  tag := "numbers"
  parameters := [{ name := "number", description := "Integer to store.", schema := .int32 }]
  replies := [
    ⟨200, "Number stored; all numbers sorted ascending", numbersShape⟩,
    ⟨400, "Missing or malformed number", errorShape⟩,
    ⟨500, "Store failure", errorShape⟩]

def health : Operation where
  path := "/health"
  method := "get"
  id := "health"
  summary := "Health check handler - always returns 200."
  tag := "health"
  replies := [⟨200, "Process is up", healthShape⟩]

def ready : Operation where
  path := "/ready"
  method := "get"
  id := "ready"
  summary := "Readiness check handler - returns 200 if the store answers, 503 otherwise."
  tag := "health"
  replies := [⟨200, "Store reachable", readyShape⟩, ⟨503, "Store unreachable", readyShape⟩]

def operations : List Operation := [addNumber, health, ready]

/-! ## What a shape admits -/

mutual

def Schema.admits : Schema → Value → Bool
  | .int32, .number lexeme => (Text.Decimal.parseInt32 lexeme.toList).isOk
  | .boolean, .bool _ => true
  | .string, .string (some _) => true
  | .nullableString, .string (some _) => true
  | .nullableString, .null => true
  | .array item, .array vs => Schema.admitsAll item vs
  | _, _ => false

def Schema.admitsAll : Schema → List Value → Bool
  | _, [] => true
  | s, v :: vs => s.admits v && s.admitsAll vs

end

namespace Schema

variable (item : Schema) (s : String) (v : Value) (vs : List Value)

@[simp] theorem admits_int32 : int32.admits (.number s) = (Text.Decimal.parseInt32 s.toList).isOk := rfl
@[simp] theorem admits_boolean (b : Bool) : boolean.admits (.bool b) = true := rfl
@[simp] theorem admits_string : string.admits (.text s) = true := rfl
@[simp] theorem admits_nullableString : nullableString.admits (.text s) = true := rfl
@[simp] theorem admits_array : (array item).admits (.array vs) = item.admitsAll vs := rfl
@[simp] theorem admitsAll_nil : item.admitsAll [] = true := rfl
@[simp] theorem admitsAll_cons : item.admitsAll (v :: vs) = (item.admits v && item.admitsAll vs) := rfl

end Schema

/-- A member of each required property's name, and each member of a property's name of
    its shape. -/
def Shape.admits (shape : Shape) : Value → Bool
  | .object members =>
    shape.properties.all fun p =>
      let values := members.filterMap fun (k, v) => if k = some p.name then some v else none
      (!p.required || !values.isEmpty) && values.all p.schema.admits
  | _ => false

def Operation.reply? (op : Operation) (status : Nat) : Option Reply :=
  op.replies.find? (·.status == status)

/-- Whether the description covers an answer with this status and body. -/
def Operation.describes (op : Operation) (status : Nat) (body : String) : Bool :=
  match op.reply? status, Json.parse? body with
  | some reply, some v => reply.body.admits v
  | _, _ => false

/-! ## The served document -/

def Schema.members : Schema → List (String × Value)
  | .int32 => [("type", .text "integer"), ("format", .text "int32")]
  | .boolean => [("type", .text "boolean")]
  | .string => [("type", .text "string")]
  | .nullableString => [("type", .texts ["string", "null"])]
  | .array item => [("type", .text "array"), ("items", .ofMembers item.members)]

def described (description : Option String) : List (String × Value) :=
  match description with
  | some d => [("description", .text d)]
  | none => []

def Property.value (p : Property) : String × Value :=
  (p.name, .ofMembers (p.schema.members ++ described p.description))

def Shape.value (s : Shape) : String × Value :=
  (s.name, .ofMembers [
    ("type", .text "object"),
    ("description", .text s.description),
    ("required", .texts ((s.properties.filter (·.required)).map (·.name))),
    ("properties", .ofMembers (s.properties.map (·.value)))])

def Reply.value (r : Reply) : String × Value :=
  (Text.Decimal.ofNat r.status, .ofMembers [
    ("description", .text r.description),
    ("content", .ofMembers [("application/json", .ofMembers [("schema", .ofMembers [
      ("$ref", .text ("#/components/schemas/" ++ r.body.name))])])])])

def Parameter.value (p : Parameter) : Value :=
  .ofMembers [
    ("name", .text p.name),
    ("in", .text "query"),
    ("description", .text p.description),
    ("required", .bool true),
    ("schema", .ofMembers p.schema.members)]

def Operation.value (op : Operation) : String × Value :=
  (op.path, .ofMembers [(op.method, .ofMembers (
    [("tags", .texts [op.tag]), ("summary", .text op.summary), ("operationId", .text op.id)] ++
    (if op.parameters = [] then [] else [("parameters", .array (op.parameters.map (·.value)))]) ++
    [("responses", .ofMembers (op.replies.map (·.value)))]))])

def tag (name description : String) : Value :=
  .ofMembers [("name", .text name), ("description", .text description)]

def value : Value :=
  .ofMembers [
    ("openapi", .text "3.1.0"),
    ("info", .ofMembers [
      ("title", .text "sorted-numbers"),
      ("description",
        .text "Store integers and read back every stored integer in ascending order"),
      ("contact", .ofMembers [("name", .text "Your Name")]),
      ("license", .ofMembers [("name", .text "MIT"), ("identifier", .text "MIT")]),
      ("version", .text "0.1.0")]),
    ("paths", .ofMembers (operations.map (·.value))),
    ("components", .ofMembers [("schemas", .ofMembers (shapes.map (·.value)))]),
    ("tags", .array [
      tag "numbers" "Insert-and-list operation",
      tag "health" "Liveness and readiness checks"])]

end NumberRegistry.Api.Document
