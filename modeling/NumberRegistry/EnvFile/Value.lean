/-
  NumberRegistry.EnvFile.Value — one entry of an environment file.

  `[export] NAME = value`. Outside strong quotes `$NAME` and `${NAME}` stand for other
  variables and a backslash escapes; an unquoted value ends at white space, after which
  only a comment may come. The name behind a bare dollar sign is letters and digits.
-/
import NumberRegistry.Text.Classes

namespace NumberRegistry.EnvFile

open Text

/-- What a reader of a value is in the middle of. -/
inductive Mode where
  | text
  | escaped
  /-- A name behind a dollar sign; `braced` once its brace is open. -/
  | name (soFar : List Char) (braced : Bool)
  /-- The value is over. -/
  | ended
  deriving DecidableEq, Repr

structure Reading where
  output : List Char := []
  mode : Mode := .text
  weak : Bool := false
  strong : Bool := false
  deriving DecidableEq, Repr

def Reading.push (r : Reading) (cs : List Char) : Reading := { r with output := r.output ++ cs }

def isGap (c : Char) : Bool := c == ' ' || c == '\t'

def escape? (c : Char) : Option Char :=
  if "\\'\"$ ".toList.contains c then some c else if c = 'n' then some '\n' else none

/-- A character of plain text, in weak quotes or in none. -/
def readText (c : Char) (r : Reading) : Reading :=
  if c = '$' then { r with mode := .name [] false }
  else if c = '\\' then { r with mode := .escaped }
  else if r.weak then if c = '"' then { r with weak := false } else r.push [c]
  else if c = '\x27' then { r with strong := true }
  else if c = '"' then { r with weak := true }
  else if isGap c then { r with mode := .ended }
  else r.push [c]

/-- A character of a name or the first one behind it, which is taken as it is. -/
def readName (lookup : String → String) (c : Char) (soFar : List Char) (braced : Bool)
    (r : Reading) : Reading :=
  let expanded := { r with mode := .text }.push (lookup (String.ofList soFar)).toList
  if alphanumeric.mem c then { r with mode := .name (soFar ++ [c]) braced }
  else if braced then
    if c = '\x7d' then expanded else { r with mode := .name (soFar ++ [c]) true }
  else if c = '\x7b' ∧ soFar = [] then { r with mode := .name [] true }
  else if c = '$' then { expanded with mode := .name [] false }
  else expanded.push [c]

/-- Reads a value up to its end or a comment behind it. -/
def readValue (lookup : String → String) (r : Reading) : List Char → Option Reading
  | [] => some r
  | c :: cs =>
    match r.mode with
    | .ended => if isGap c then readValue lookup r cs else if c = '#' then some r else none
    | .escaped =>
      match escape? c with
      | some d => readValue lookup ({ r with mode := .text }.push [d]) cs
      | none => none
    | .name soFar braced => readValue lookup (readName lookup c soFar braced r) cs
    | .text =>
      if r.strong then
        readValue lookup (if c = '\x27' then { r with strong := false } else r.push [c]) cs
      else readValue lookup (readText c r) cs

/-- The value of a text; `none` if a quote or a brace stays open. -/
def value? (lookup : String → String) (s : List Char) : Option String :=
  match readValue lookup {} s with
  | none => none
  | some r =>
    if r.weak || r.strong then none
    else
      match r.mode with
      | .name _ true => none
      | .name soFar false => some (String.ofList (r.output ++ (lookup (String.ofList soFar)).toList))
      | _ => some (String.ofList r.output)

/-! ## Entries -/

def isKeyStart (c : Char) : Bool := c.isAlpha || c == '_'

def isKeyChar (c : Char) : Bool := c.isAlphanum || c == '_' || c == '.'

def key? (s : List Char) : Option (List Char × List Char) :=
  if s.head?.any isKeyStart then some (s.takeWhile isKeyChar, s.dropWhile isKeyChar) else none

def skipBlank (s : List Char) : List Char := s.dropWhile isBlank

/-- The name and what stands behind the equals sign. `export` may stand before the name,
    and is a name itself when the equals sign follows it. -/
def assignment? (s : List Char) : Option (String × List Char) := do
  let (key, rest) ← key? s
  match skipBlank rest with
  | '=' :: value => return (String.ofList key, value)
  | rest =>
    if key ≠ "export".toList then failure
    let (key, rest) ← key? rest
    match skipBlank rest with
    | '=' :: value => return (String.ofList key, value)
    | _ => failure

inductive Entry where
  | blank
  | assign (name value : String)
  | unreadable
  deriving DecidableEq, Repr

def startsNothing (s : List Char) : Bool := s.isEmpty || s.head? == some '#'

def Entry.parse (lookup : String → String) (line : List Char) : Entry :=
  let s := skipBlank (dropBlankEnd line)
  if startsNothing s then .blank
  else
    match assignment? s with
    | none => .unreadable
    | some (name, rest) =>
      let rest := skipBlank rest
      if startsNothing rest then .assign name ""
      else
        match value? lookup rest with
        | some value => .assign name value
        | none => .unreadable

end NumberRegistry.EnvFile
