/-
  NumberRegistry.Text.Percent — percent-encoding.

  Encoding writes each byte of the characters that a set reserves as `%XX`; decoding
  reads every `%XX` back and leaves any other percent sign alone.
-/
import NumberRegistry.Text.Utf8

namespace NumberRegistry.Text.Percent

open Utf8 (Bytes)

def hexDigit (n : Nat) : Char := if n < 10 then Char.ofNat (48 + n) else Char.ofNat (55 + n)

def hexValue? (c : Char) : Option Nat :=
  if '0' ≤ c ∧ c ≤ '9' then some (c.toNat - 48)
  else if 'A' ≤ c ∧ c ≤ 'F' then some (c.toNat - 55)
  else if 'a' ≤ c ∧ c ≤ 'f' then some (c.toNat - 87)
  else none

def encodeByte (b : UInt8) : List Char := ['%', hexDigit (b.toNat / 16), hexDigit (b.toNat % 16)]

def encodeChar (reserved : Char → Bool) (c : Char) : List Char :=
  if reserved c then (String.utf8EncodeChar c).flatMap encodeByte else [c]

def encode (reserved : Char → Bool) (s : List Char) : List Char := s.flatMap (encodeChar reserved)

/-- The bytes a percent-encoded text stands for. -/
def decode : List Char → Bytes
  | '%' :: a :: b :: cs =>
    match hexValue? a, hexValue? b with
    | some x, some y => UInt8.ofNat (x * 16 + y) :: decode cs
    | _, _ => String.utf8EncodeChar '%' ++ decode (a :: b :: cs)
  | c :: cs => String.utf8EncodeChar c ++ decode cs
  | [] => []

theorem decode_cons {c : Char} (h : c ≠ '%') (cs : List Char) :
    decode (c :: cs) = String.utf8EncodeChar c ++ decode cs := by
  rw [decode]
  intro a b cs hc
  exact absurd hc h

theorem hexValue_hexDigit {n : Nat} (h : n < 16) : hexValue? (hexDigit n) = some n := by
  have all : ∀ m ∈ List.range 16, hexValue? (hexDigit m) = some m := by decide
  exact all n (List.mem_range.mpr h)

theorem hexValue?_lt {c : Char} {d : Nat} (h : hexValue? c = some d) : d < 16 := by
  unfold hexValue? at h
  split at h
  · rename_i hc
    have : c.toNat ≤ 57 := UInt32.le_iff_toNat_le.mp hc.2
    cases h
    omega
  split at h
  · rename_i hc
    have : c.toNat ≤ 70 := UInt32.le_iff_toNat_le.mp hc.2
    cases h
    omega
  split at h
  · rename_i hc
    have : c.toNat ≤ 102 := UInt32.le_iff_toNat_le.mp hc.2
    cases h
    omega
  · cases h

theorem decode_encodeByte (b : UInt8) (cs : List Char) :
    decode (encodeByte b ++ cs) = b :: decode cs := by
  have hb : b.toNat < 256 := b.toNat_lt
  have h1 : b.toNat / 16 < 16 := by omega
  have h2 : b.toNat % 16 < 16 := by omega
  have h3 : b.toNat / 16 * 16 + b.toNat % 16 = b.toNat := by omega
  simp [encodeByte, decode, hexValue_hexDigit h1, hexValue_hexDigit h2, h3]

theorem decode_encodeBytes (bs : Bytes) (cs : List Char) :
    decode (bs.flatMap encodeByte ++ cs) = bs ++ decode cs := by
  induction bs with
  | nil => rfl
  | cons b bs ih => rw [List.flatMap_cons, List.append_assoc, decode_encodeByte, ih, List.cons_append]

end NumberRegistry.Text.Percent
