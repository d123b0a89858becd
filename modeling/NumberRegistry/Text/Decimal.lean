/-
  NumberRegistry.Text.Decimal — whole numbers in decimal.

  Reading goes digit by digit from the left and stops at the first character that
  settles the answer: a character that is no digit, or a digit that takes the number
  out of its range. `"99999x"` read below 100 is therefore too large, not malformed.
-/
namespace NumberRegistry.Text.Decimal

/-- Why a text is not a number of the wanted range. -/
inductive ParseError where
  | empty
  | invalidDigit
  | tooLarge
  | tooSmall
  deriving DecidableEq, Repr

def ParseError.message : ParseError → String
  | .empty => "cannot parse integer from empty string"
  | .invalidDigit => "invalid digit found in string"
  | .tooLarge => "number too large to fit in target type"
  | .tooSmall => "number too small to fit in target type"

def digit? (c : Char) : Option Nat :=
  if '0' ≤ c ∧ c ≤ '9' then some (c.toNat - 48) else none

/-- Continues `acc` with the digits of a text, as long as the number stays within `max`. -/
def magnitude (max : Nat) (excess : ParseError) : Nat → List Char → Except ParseError Nat
  | acc, [] => .ok acc
  | acc, c :: cs =>
    match digit? c with
    | none => .error .invalidDigit
    | some d => if acc * 10 + d ≤ max then magnitude max excess (acc * 10 + d) cs else .error excess

/-- A number from 0 to `max`, with an optional plus sign. -/
def parseNat (max : Nat) : List Char → Except ParseError Nat
  | [] => .error .empty
  | ['+'] => .error .invalidDigit
  | '+' :: ds => magnitude max .tooLarge 0 ds
  | ds => magnitude max .tooLarge 0 ds

/-- A number from `-(max + 1)` to `max`, with an optional sign. -/
def parseInt (max : Nat) : List Char → Except ParseError Int
  | [] => .error .empty
  | ['+'] => .error .invalidDigit
  | ['-'] => .error .invalidDigit
  | '+' :: ds => (magnitude max .tooLarge 0 ds).map Int.ofNat
  | '-' :: ds => (magnitude (max + 1) .tooSmall 0 ds).map fun n => -(Int.ofNat n)
  | ds => (magnitude max .tooLarge 0 ds).map Int.ofNat

def parseInt32 (s : List Char) : Except ParseError Int32 :=
  (parseInt 0x7FFFFFFF s).map Int32.ofInt

def parseUInt32 (s : List Char) : Except ParseError UInt32 :=
  (parseNat (UInt32.size - 1) s).map UInt32.ofNat

def parseUInt64 (s : List Char) : Except ParseError UInt64 :=
  (parseNat (UInt64.size - 1) s).map UInt64.ofNat

def ofNat (n : Nat) : String := String.ofList (Nat.toDigits 10 n)

def ofInt : Int → String
  | .ofNat n => ofNat n
  | .negSucc n => "-" ++ ofNat (n + 1)

end NumberRegistry.Text.Decimal
