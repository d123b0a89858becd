/-
  NumberRegistry.Text.Ranges — properties of characters, written as run lengths.

  A set of characters is the list of the lengths of its runs in code point order: so many
  outside, so many inside, so many outside, and so on; what follows the last run is
  outside. A property with more values is a list of runs with a label each. Written out,
  a length is a number in base 36, and a label starts with a capital letter.
-/
namespace NumberRegistry.Text

def digit36 (c : Char) : Nat := if c.toNat < 58 then c.toNat - 48 else c.toNat - 87

def number36 (s : List Char) : Nat := s.foldl (fun n c => n * 36 + digit36 c) 0

/-- The words of a text; a single space separates two. -/
def words : List Char → List (List Char)
  | [] => [[]]
  | ' ' :: cs => [] :: words cs
  | c :: cs =>
    match words cs with
    | w :: ws => (c :: w) :: ws
    | [] => [[c]]

abbrev Ranges := List Nat

namespace Ranges

/-- `inside`: whether the run at the head of the list belongs to the set. -/
def memFrom (inside : Bool) : Ranges → Nat → Bool
  | [], _ => false
  | run :: runs, n => if n < run then inside else memFrom (!inside) runs (n - run)

def mem (r : Ranges) (c : Char) : Bool := memFrom false r c.toNat

def ofLines (lines : List String) : Ranges := lines.flatMap fun l => (words l.toList).map number36

end Ranges

abbrev Labels := List (Nat × List Char)

namespace Labels

/-- The label of the run that holds code point `n`, and the place of `n` in the run. -/
def find? : Labels → Nat → Option (List Char × Nat)
  | [], _ => none
  | (run, label) :: runs, n => if n < run then some (label, n) else find? runs (n - run)

def label (r : Labels) (c : Char) : List Char := ((find? r c.toNat).map (·.1)).getD []

def isLength (c : Char) : Bool := c.isDigit || c.isLower

/-- A run of length one may leave its length out. -/
def ofWord (w : List Char) : Nat × List Char :=
  let length := w.takeWhile isLength
  (if length = [] then 1 else number36 length, w.dropWhile isLength)

def ofLines (lines : List String) : Labels := lines.flatMap fun l => (words l.toList).map ofWord

end Labels

end NumberRegistry.Text
