/-
  NumberRegistry.Json.Basic — JSON values, and the text of them.

  Members keep their order and may repeat. A string literal can escape half of a
  surrogate pair; such a literal is a string that denotes no text, and is `none`. A
  number is kept as it is written.
-/
import NumberRegistry.Text.Decimal

namespace NumberRegistry.Json

open Text

inductive Value where
  | null
  | bool (b : Bool)
  | number (lexeme : String)
  | string (text : Option String)
  | array (items : List Value)
  | object (members : List (Option String × Value))
  deriving Repr

namespace Value

def text (s : String) : Value := .string (some s)

def integer (n : Int32) : Value := .number (Decimal.ofInt n.toInt)

/-- An object whose member names are texts. -/
def ofMembers (ms : List (String × Value)) : Value := .object (ms.map fun (k, v) => (some k, v))

def texts (ss : List String) : Value := .array (ss.map text)

end Value

/-! ## Printing -/

def hexDigits (n : Nat) : List Char :=
  let ds := Nat.toDigits 16 n
  List.replicate (4 - ds.length) '0' ++ ds

/-- A character inside a string literal. -/
def escape (c : Char) : List Char :=
  match c with
  | '"' => ['\\', '"']
  | '\\' => ['\\', '\\']
  | '\x08' => ['\\', 'b']
  | '\x0c' => ['\\', 'f']
  | '\n' => ['\\', 'n']
  | '\r' => ['\\', 'r']
  | '\t' => ['\\', 't']
  | c => if c.toNat < 0x20 then '\\' :: 'u' :: hexDigits c.toNat else [c]

def quote (s : List Char) : List Char := '"' :: s.flatMap escape ++ ['"']

mutual

def Value.render : Value → List Char
  | .null => "null".toList
  | .bool b => (if b then "true" else "false").toList
  | .number lexeme => lexeme.toList
  | .string text => quote ((text.getD "").toList)
  | .array items => '[' :: renderItems items ++ [']']
  | .object members => '\x7b' :: renderMembers members ++ ['\x7d']

def renderItems : List Value → List Char
  | [] => []
  | [v] => v.render
  | v :: w :: vs => v.render ++ ',' :: renderItems (w :: vs)

def renderMembers : List (Option String × Value) → List Char
  | [] => []
  | [(k, v)] => quote ((k.getD "").toList) ++ ':' :: v.render
  | (k, v) :: m :: ms => quote ((k.getD "").toList) ++ ':' :: v.render ++ ',' :: renderMembers (m :: ms)

end

def Value.print (v : Value) : String := String.ofList v.render

end NumberRegistry.Json
