/-
  NumberRegistry.Text.Normal — the composed normal form of a text (NFC).

  The text is taken apart completely, its marks are sorted by combining class within
  each run of marks, and then characters are composed again from the left wherever no
  mark of the same or a lower class that stays stands between the two.
-/
import NumberRegistry.Text.Decomposition

namespace NumberRegistry.Text.Normal

def toChar (n : Nat) : Char := Char.ofNat n

/-- The numbers of a label: base 36, separated by commas. -/
def numbers : List Char → List Nat
  | [] => [0]
  | ',' :: cs => 0 :: numbers cs
  | c :: cs =>
    match numbers cs with
    | n :: ns => (digit36 c * Nat.pow 36 (cs.takeWhile (· ≠ ',')).length + n) :: ns
    | [] => []

/-- One entry of the decomposition table. -/
structure Entry where
  char : Nat
  parts : List Nat
  composes : Bool

def entriesFrom (last : Nat) : Labels → List Entry
  | [] => []
  | (gap, label) :: rest =>
    ⟨last + gap, numbers (label.drop 1), label.head? == some 'C'⟩ :: entriesFrom (last + gap) rest

def entries : List Entry := entriesFrom 0 decompositions

/-! Hangul syllables come apart by rule: 19 leading consonants, 21 vowels, 27 trailing
    consonants or none. -/

def isSyllable (n : Nat) : Bool := 0xAC00 ≤ n && n ≤ 0xD7A3

def syllableParts (n : Nat) : List Nat :=
  let i := n - 0xAC00
  let front := [0x1100 + i / 588, 0x1161 + i % 588 / 28]
  if i % 28 = 0 then front else front ++ [0x11A7 + i % 28]

def syllable? (a b : Nat) : Option Nat :=
  if 0x1100 ≤ a ∧ a < 0x1113 ∧ 0x1161 ≤ b ∧ b < 0x1176 then
    some (0xAC00 + ((a - 0x1100) * 21 + (b - 0x1161)) * 28)
  else if isSyllable a ∧ (a - 0xAC00) % 28 = 0 ∧ 0x11A7 < b ∧ b < 0x11C3 then
    some (a + (b - 0x11A7))
  else none

/-- Takes a code point apart; four rounds reach the end of every chain in the table. -/
def parts : (rounds : Nat) → Nat → List Nat
  | 0, n => [n]
  | rounds + 1, n =>
    if isSyllable n then syllableParts n
    else
      match entries.find? (·.char == n) with
      | some e => e.parts.flatMap (parts rounds)
      | none => [n]

def combiningClass (n : Nat) : Nat :=
  match combiningClasses.find? n with
  | some (label, _) => number36 (label.drop 1)
  | none => 0

/-- Sorts each run of marks by class, keeping the order within a class. -/
def orderMarks (marks : List Nat) : List Nat → List Nat
  | [] => sorted marks
  | n :: ns =>
    if combiningClass n = 0 then sorted marks ++ n :: orderMarks [] ns
    else orderMarks (marks ++ [n]) ns
where
  sorted (ms : List Nat) : List Nat := ms.mergeSort fun a b => combiningClass a ≤ combiningClass b

def compose? (a b : Nat) : Option Nat :=
  (syllable? a b).or ((entries.find? fun e => e.composes && e.parts == [a, b]).map (·.char))

/-- Composes the characters after `starter`; `kept` are marks that stay behind it, and
    `lastClass` is the class of the last of them. -/
def composeAfter (starter : Nat) (kept : List Nat) (lastClass : Nat) : List Nat → List Nat
  | [] => starter :: kept
  | n :: ns =>
    let k := combiningClass n
    let free := if k = 0 then kept = [] else lastClass < k
    match (if free then compose? starter n else none) with
    | some joined => composeAfter joined kept lastClass ns
    | none =>
      if k = 0 then starter :: kept ++ composeAfter n [] 0 ns
      else composeAfter starter (kept ++ [n]) k ns

def composeAll : List Nat → List Nat
  | [] => []
  | n :: ns => if combiningClass n = 0 then composeAfter n [] 0 ns else n :: composeAll ns

def nfc (s : List Char) : List Char :=
  if s.all (·.toNat < 0xC0) then s
  else (composeAll (orderMarks [] (s.flatMap fun c => parts 4 c.toNat))).map toChar

end NumberRegistry.Text.Normal
