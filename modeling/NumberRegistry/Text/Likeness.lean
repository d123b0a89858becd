/-
  NumberRegistry.Text.Likeness — how alike two words are, from 0 to 1.

  Two characters match if they are equal and not too far apart; each matches once, the
  earliest free one being taken. The likeness is the mean of three shares: of the first
  word that matches, of the second word that matches, and of the matches that stand in
  the same order in both.
-/
namespace NumberRegistry.Text.Likeness

/-- Takes the first free `c` at a position from `low` on and below `high`; characters are
    paired with whether they are taken, and `position` is that of the first. -/
def takeMatch (c : Char) (low high position : Nat) : List (Char × Bool) → Option (List (Char × Bool))
  | [] => none
  | (d, taken) :: rest =>
    if high ≤ position then none
    else if low ≤ position ∧ c = d ∧ !taken then some ((d, true) :: rest)
    else (takeMatch c low high (position + 1) rest).map ((d, taken) :: ·)

/-- The characters of the first word that match, and the second word after that. -/
def matchAll (range position : Nat) (other : List (Char × Bool)) :
    List Char → List Char × List (Char × Bool)
  | [] => ([], other)
  | c :: cs =>
    match takeMatch c (position - range) (position + range + 1) 0 other with
    | some other =>
      let (found, other) := matchAll range (position + 1) other cs
      (c :: found, other)
    | none => matchAll range (position + 1) other cs

def share (part whole : Nat) : Float := part.toFloat / whole.toFloat

def likeness (a b : List Char) : Float :=
  if a.isEmpty && b.isEmpty then 1.0
  else
    let range := max a.length b.length / 2 - 1
    let (found, taken) := matchAll range 0 (b.map (·, false)) a
    if found.isEmpty then 0.0
    else
      let foundInOther := (taken.filter (·.2)).map (·.1)
      let displaced := ((found.zip foundInOther).countP fun (x, y) => x != y) / 2
      (share found.length a.length + share found.length b.length +
        share (found.length - displaced) found.length) / 3.0

/-- The candidates that are much like a word, the most alike last. -/
def similar (word : String) (candidates : List String) : List String :=
  let scored := candidates.map fun c => (likeness word.toList c.toList, c)
  ((scored.filter (·.1 > 0.7)).mergeSort fun x y => x.1 ≤ y.1).map (·.2)

end NumberRegistry.Text.Likeness
