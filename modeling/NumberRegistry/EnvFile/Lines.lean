/-
  NumberRegistry.EnvFile.Lines — the lines of an environment file.

  An entry may go on over several lines while a quote is open; a comment starts with `#`
  after white space. A file that ends inside a quote, or just after white space that a
  line break does not follow, has no readable end.
-/
import NumberRegistry.Text.Classes

namespace NumberRegistry.EnvFile

open Text

/-- Where a reader stands inside an entry. -/
inductive Standing where
  | plain
  | blank
  | escape
  | weak
  | weakEscape
  | strong
  | strongEscape
  deriving DecidableEq, Repr

def opening (c : Char) : Standing :=
  if c = '\\' then .escape
  else if c = '"' then .weak
  else if c = '\x27' then .strong
  else .plain

def Standing.next (s : Standing) (c : Char) : Standing :=
  match s with
  | .plain => if isBlank c ∧ c ≠ '\n' ∧ c ≠ '\r' then .blank else opening c
  | .blank => opening c
  | .escape => .plain
  | .weak => if c = '\\' then .weakEscape else if c = '"' then .plain else .weak
  | .weakEscape => .weak
  | .strong => if c = '\\' then .strongEscape else if c = '\x27' then .plain else .strong
  | .strongEscape => .strong

/-- What a line leaves: a comment begins behind some of it, or where it ends. -/
inductive LineEnd where
  | comment (before : List Char)
  | standing (s : Standing)

def scan (s : Standing) (done : List Char) : List Char → LineEnd
  | [] => .standing s
  | c :: cs => if s = .blank ∧ c = '#' then .comment done else scan (s.next c) (done ++ [c]) cs

/-- The lines of a text, each with its line break. -/
def splitLines : List Char → List (List Char)
  | [] => []
  | '\n' :: cs => ['\n'] :: splitLines cs
  | c :: cs =>
    match splitLines cs with
    | l :: ls => (c :: l) :: ls
    | [] => [[c]]

def dropLineBreak (l : List Char) : List Char :=
  match l.reverse with
  | '\n' :: '\r' :: rest => rest.reverse
  | '\n' :: rest => rest.reverse
  | _ => l

def isComment (l : List Char) : Bool := (l.dropWhile isBlank).head? == some '#'

/-- The entries of lines, of which `pending` is open already; `none` for an unreadable end. -/
def entries (pending : List Char) (s : Standing) : List (List Char) → List (Option (List Char))
  | [] => if s = .plain then [] else [none]
  | l :: ls =>
    if isComment (pending ++ l) then entries [] .plain ls
    else
      match scan s [] l with
      | .comment before => some (pending ++ before) :: entries [] .plain ls
      | .standing .plain => some (dropLineBreak (pending ++ l)) :: entries [] .plain ls
      | .standing t => entries (pending ++ l) t ls

end NumberRegistry.EnvFile
