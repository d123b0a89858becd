/-
  NumberRegistry.Database.Script — scripts of statements, as a database server reads them.

  Two dashes begin a comment, which ends with its line; a semicolon ends a statement, and
  white space separates its words. A statement counts for what it does to a table that is
  there already: one that creates it stands aside if it says so and is refused otherwise,
  and one that drops, deletes or truncates leaves nothing in it.
-/
import NumberRegistry.Http.Form
import NumberRegistry.Text.Classes

namespace NumberRegistry.Database.Script

open Text

inductive Command where
  /-- Makes a table or an index. -/
  | create (name : String) (ifAbsent : Bool)
  /-- Takes away what is in the table, or the table with it. -/
  | remove
  /-- The server does not know what the word is there for. -/
  | unknown (word : String)
  deriving DecidableEq, Repr

def Command.ofWords : List String → Command
  | "create" :: _ :: "if" :: "not" :: "exists" :: name :: _ => .create name true
  | "create" :: _ :: name :: _ => .create name false
  | "drop" :: _ | "delete" :: _ | "truncate" :: _ => .remove
  | word :: _ => .unknown word
  | [] => .unknown ""

/-- A script without its comments; `inside` tells whether it begins in one. -/
def withoutComments : (inside : Bool) → List Char → List Char
  | _, [] => []
  | _, '\n' :: cs => '\n' :: withoutComments false cs
  | true, _ :: cs => withoutComments true cs
  | false, '-' :: '-' :: cs => withoutComments true cs
  | false, c :: cs => c :: withoutComments false cs

/-- The words of a statement, in small letters. -/
def words (statement : List Char) : List String :=
  let spaced := statement.map fun c => if isBlank c then ' ' else c.toLower
  ((Http.Form.splitOn ' ' spaced).filter (· ≠ [])).map String.ofList

/-- What a script asks for, in its order. -/
def commands (script : String) : List Command :=
  let statements := Http.Form.splitOn ';' (withoutComments false script.toList)
  ((statements.map words).filter (· ≠ [])).map Command.ofWords

end NumberRegistry.Database.Script
