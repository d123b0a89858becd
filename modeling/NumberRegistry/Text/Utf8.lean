/-
  NumberRegistry.Text.Utf8 — characters as bytes and back.

  A byte sequence that is no UTF-8 is read in one of two ways: `decode?` reports the
  first fault with its place, `decodeLossy` puts U+FFFD for every maximal run of bytes
  that begins a character without finishing it.
-/
namespace NumberRegistry.Text.Utf8

abbrev Bytes := List UInt8

def encode (s : List Char) : Bytes := s.flatMap String.utf8EncodeChar

/-- What a byte sequence begins with. -/
inductive Front where
  | char (c : Char) (rest : Bytes)
  /-- The first `length` bytes begin a character that the next byte does not continue. -/
  | fault (length : Nat) (rest : Bytes)
  /-- The sequence ends inside a character. -/
  | cut (length : Nat)

/-- Reads `need` continuation bytes; the first lies in `lo`–`hi`, the others in 80–BF. -/
def continuation : (need lo hi acc seen : Nat) → Bytes → Front
  | 0, _, _, acc, _, rest => .char (Char.ofNat acc) rest
  | _ + 1, _, _, _, seen, [] => .cut seen
  | need + 1, lo, hi, acc, seen, b :: rest =>
    if lo ≤ b.toNat ∧ b.toNat ≤ hi then
      continuation need 0x80 0xBF (acc * 64 + (b.toNat - 0x80)) (seen + 1) rest
    else .fault seen (b :: rest)

/-- What the first byte of a character says of the others: their number, the bounds of the
    next, and the bits the first byte holds. The bounds keep out overlong forms, surrogates
    and numbers above U+10FFFF. -/
structure Lead where
  need : Nat
  lo : Nat := 0x80
  hi : Nat := 0xBF
  bits : Nat

def Lead.ofByte? (n : Nat) : Option Lead :=
  if n < 0x80 then some { need := 0, bits := n }
  else if 0xC2 ≤ n ∧ n ≤ 0xDF then some { need := 1, bits := n - 0xC0 }
  else if n = 0xE0 then some { need := 2, lo := 0xA0, bits := 0 }
  else if n = 0xED then some { need := 2, hi := 0x9F, bits := n - 0xE0 }
  else if 0xE1 ≤ n ∧ n ≤ 0xEF then some { need := 2, bits := n - 0xE0 }
  else if n = 0xF0 then some { need := 3, lo := 0x90, bits := 0 }
  else if 0xF1 ≤ n ∧ n ≤ 0xF3 then some { need := 3, bits := n - 0xF0 }
  else if n = 0xF4 then some { need := 3, hi := 0x8F, bits := n - 0xF0 }
  else none

/-- The front of `b :: rest`. -/
def front (b : UInt8) (rest : Bytes) : Front :=
  match Lead.ofByte? b.toNat with
  | some l => continuation l.need l.lo l.hi l.bits 1 rest
  | none => .fault 1 rest

def Front.rest : Front → Bytes
  | .char _ rest => rest
  | .fault _ rest => rest
  | .cut _ => []

theorem continuation_rest_le (need lo hi acc seen : Nat) (bs : Bytes) :
    (continuation need lo hi acc seen bs).rest.length ≤ bs.length := by
  induction need generalizing lo hi acc seen bs with
  | zero => simp [continuation, Front.rest]
  | succ n ih =>
    cases bs with
    | nil => simp [continuation, Front.rest]
    | cons b rest =>
      unfold continuation
      split
      · exact Nat.le_succ_of_le (ih ..)
      · simp [Front.rest]

theorem front_rest_le (b : UInt8) (rest : Bytes) : (front b rest).rest.length ≤ rest.length := by
  unfold front
  split
  · exact continuation_rest_le ..
  · exact Nat.le_refl _

theorem rest_lt_of_front {b : UInt8} {bs : Bytes} {f : Front} (h : front b bs = f) :
    f.rest.length < (b :: bs).length :=
  Nat.lt_succ_of_le (h ▸ front_rest_le b bs)

/-- The text of a byte sequence, faults replaced by U+FFFD. -/
def decodeLossy : Bytes → List Char
  | [] => []
  | b :: bs =>
    match _h : front b bs with
    | .char c rest => c :: decodeLossy rest
    | .fault _ rest => '\uFFFD' :: decodeLossy rest
    | .cut _ => ['\uFFFD']
termination_by bs => bs.length
decreasing_by all_goals exact rest_lt_of_front _h

/-- The first fault of a byte sequence: the bytes before it, and its length unless the
    sequence just ends too early. -/
structure Fault where
  index : Nat
  length : Option Nat
  deriving DecidableEq, Repr

def Fault.message (f : Fault) : String :=
  match f.length with
  | some n => "invalid utf-8 sequence of " ++ toString n ++ " bytes from index " ++ toString f.index
  | none => "incomplete utf-8 byte sequence from index " ++ toString f.index

def decodeFrom (index : Nat) : Bytes → Except Fault (List Char)
  | [] => .ok []
  | b :: bs =>
    match _h : front b bs with
    | .char c rest => (decodeFrom (index + c.utf8Size) rest).map (c :: ·)
    | .fault n _ => .error ⟨index, some n⟩
    | .cut _ => .error ⟨index, none⟩
termination_by bs => bs.length
decreasing_by all_goals exact rest_lt_of_front _h

def decode? (bs : Bytes) : Except Fault (List Char) := decodeFrom 0 bs

end NumberRegistry.Text.Utf8
