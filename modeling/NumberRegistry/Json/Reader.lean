/-
  NumberRegistry.Json.Reader — reading JSON text.

  A value is followed by nothing but white space. Depth is not limited. String literals
  hold no control characters.
-/
import NumberRegistry.Json.Basic
import NumberRegistry.Text.Percent

namespace NumberRegistry.Json

open Text

def isSpace (c : Char) : Bool := c == ' ' || c == '\n' || c == '\r' || c == '\t'

def skip (s : List Char) : List Char := s.dropWhile isSpace

/-! ## Strings -/

def simpleEscape? : Char → Option Char
  | '"' => some '"'
  | '\\' => some '\\'
  | '/' => some '/'
  | 'b' => some '\x08'
  | 'f' => some '\x0c'
  | 'n' => some '\n'
  | 'r' => some '\r'
  | 't' => some '\t'
  | _ => none

def hex4? (a b c d : Char) : Option Nat := do
  let w ← Percent.hexValue? a
  let x ← Percent.hexValue? b
  let y ← Percent.hexValue? c
  let z ← Percent.hexValue? d
  return ((w * 16 + x) * 16 + y) * 16 + z

/-- The code points and escaped halves of pairs up to the closing quote. -/
def readUnits : List Char → Option (List Nat × List Char)
  | [] => none
  | '"' :: cs => some ([], cs)
  | '\\' :: 'u' :: a :: b :: c :: d :: cs =>
    match hex4? a b c d with
    | some n => (readUnits cs).map fun (ns, rest) => (n :: ns, rest)
    | none => none
  | '\\' :: e :: cs =>
    match simpleEscape? e with
    | some c => (readUnits cs).map fun (ns, rest) => (c.toNat :: ns, rest)
    | none => none
  | c :: cs =>
    if c.toNat < 0x20 ∨ c = '\\' then none
    else (readUnits cs).map fun (ns, rest) => (c.toNat :: ns, rest)

def isHigh (n : Nat) : Bool := 0xD800 ≤ n && n ≤ 0xDBFF

def isLow (n : Nat) : Bool := 0xDC00 ≤ n && n ≤ 0xDFFF

/-- Puts the halves of pairs together; `none` if one stands alone. -/
def joinPairs : List Nat → Option (List Char)
  | [] => some []
  | [n] => if isHigh n ∨ isLow n then none else some [Char.ofNat n]
  | n :: m :: ns =>
    if isHigh n then
      if isLow m then
        (joinPairs ns).map (Char.ofNat (0x10000 + (n - 0xD800) * 0x400 + (m - 0xDC00)) :: ·)
      else none
    else if isLow n then none
    else (joinPairs (m :: ns)).map (Char.ofNat n :: ·)

/-- A string literal behind its opening quote. -/
def readString (s : List Char) : Option (Option String × List Char) :=
  (readUnits s).map fun (ns, rest) => ((joinPairs ns).map String.ofList, rest)

/-! ## Numbers -/

def readDigits (s : List Char) : Option (List Char × List Char) :=
  let ds := s.takeWhile Char.isDigit
  if ds = [] then none else some (ds, s.dropWhile Char.isDigit)

/-- Digits without a superfluous zero in front. -/
def readWhole (s : List Char) : Option (List Char × List Char) :=
  match readDigits s with
  | some ('0' :: _ :: _, _) => none
  | r => r

def readFraction (s : List Char) : Option (List Char × List Char) :=
  match s with
  | '.' :: cs => (readDigits cs).map fun (ds, rest) => ('.' :: ds, rest)
  | _ => some ([], s)

def readExponent (s : List Char) : Option (List Char × List Char) :=
  match s with
  | e :: cs =>
    if e = 'e' ∨ e = 'E' then
      match cs with
      | sign :: ds =>
        if sign = '+' ∨ sign = '-' then (readDigits ds).map fun (ds, rest) => (e :: sign :: ds, rest)
        else (readDigits cs).map fun (ds, rest) => (e :: ds, rest)
      | [] => none
    else some ([], s)
  | [] => some ([], s)

def readUnsigned (s : List Char) : Option (List Char × List Char) := do
  let (whole, s) ← readWhole s
  let (fraction, s) ← readFraction s
  let (exponent, s) ← readExponent s
  return (whole ++ fraction ++ exponent, s)

def readNumber (s : List Char) : Option (List Char × List Char) :=
  match s with
  | '-' :: cs => (readUnsigned cs).map fun (ds, rest) => ('-' :: ds, rest)
  | _ => readUnsigned s

/-! ## Values -/

mutual

/-- Reads a value; `fuel` bounds its depth and the number of its parts together. -/
def readValue : (fuel : Nat) → List Char → Option (Value × List Char)
  | 0, _ => none
  | fuel + 1, s =>
    match skip s with
    | 'n' :: 'u' :: 'l' :: 'l' :: rest => some (.null, rest)
    | 't' :: 'r' :: 'u' :: 'e' :: rest => some (.bool true, rest)
    | 'f' :: 'a' :: 'l' :: 's' :: 'e' :: rest => some (.bool false, rest)
    | '"' :: cs => (readString cs).map fun (t, rest) => (.string t, rest)
    | '[' :: cs =>
      match skip cs with
      | ']' :: rest => some (.array [], rest)
      | _ => (readItems fuel cs).map fun (vs, rest) => (.array vs, rest)
    | '\x7b' :: cs =>
      match skip cs with
      | '\x7d' :: rest => some (.object [], rest)
      | _ => (readMembers fuel cs).map fun (ms, rest) => (.object ms, rest)
    | cs => (readNumber cs).map fun (ds, rest) => (.number (String.ofList ds), rest)

def readItems : (fuel : Nat) → List Char → Option (List Value × List Char)
  | 0, _ => none
  | fuel + 1, s =>
    match readValue fuel s with
    | none => none
    | some (v, rest) =>
      match skip rest with
      | ']' :: rest => some ([v], rest)
      | ',' :: rest => (readItems fuel rest).map fun (vs, rest) => (v :: vs, rest)
      | _ => none

def readMembers : (fuel : Nat) → List Char → Option (List (Option String × Value) × List Char)
  | 0, _ => none
  | fuel + 1, s =>
    match skip s with
    | '"' :: cs =>
      match readString cs with
      | none => none
      | some (k, rest) =>
        match skip rest with
        | ':' :: rest =>
          match readValue fuel rest with
          | none => none
          | some (v, rest) =>
            match skip rest with
            | '\x7d' :: rest => some ([(k, v)], rest)
            | ',' :: rest => (readMembers fuel rest).map fun (ms, rest) => ((k, v) :: ms, rest)
            | _ => none
        | _ => none
    | _ => none

end

/-- The value of a text. Every step of a reader but the first consumes a character or
    stands on one that is consumed next, so twice the length is fuel enough. -/
def parse? (text : String) : Option Value :=
  let s := text.toList
  match readValue (2 * s.length + 2) s with
  | some (v, rest) => if skip rest = [] then some v else none
  | none => none

end NumberRegistry.Json
