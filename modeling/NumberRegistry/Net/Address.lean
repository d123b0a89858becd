/-
  NumberRegistry.Net.Address — internet addresses.

  An IPv6 address is written in groups of hexadecimal digits, its first longest run of
  at least two zero groups as `::`.
-/
import NumberRegistry.Text.Decimal

namespace NumberRegistry.Net

open Text

structure Ipv4 where
  a : UInt8
  b : UInt8
  c : UInt8
  d : UInt8
  deriving DecidableEq, Repr

/-- Eight groups of sixteen bits. -/
structure Ipv6 where
  groups : List UInt16
  length_eq : groups.length = 8
  deriving DecidableEq, Repr

def Ipv6.ofGroups? (gs : List UInt16) : Option Ipv6 :=
  if h : gs.length = 8 then some ⟨gs, h⟩ else none

namespace Ipv4

def unspecified : Ipv4 := ⟨0, 0, 0, 0⟩

def ofNat (n : Nat) : Ipv4 :=
  ⟨UInt8.ofNat (n / 0x1000000), UInt8.ofNat (n / 0x10000), UInt8.ofNat (n / 0x100), UInt8.ofNat n⟩

/-- The address as two groups of an IPv6 address. -/
def groups (ip : Ipv4) : List UInt16 :=
  [UInt16.ofNat (ip.a.toNat * 256 + ip.b.toNat), UInt16.ofNat (ip.c.toNat * 256 + ip.d.toNat)]

def text (ip : Ipv4) : String :=
  ".".intercalate ([ip.a, ip.b, ip.c, ip.d].map fun octet => Decimal.ofNat octet.toNat)

end Ipv4

namespace Ipv6

def zeroRun : List UInt16 → Nat
  | g :: gs => if g = 0 then zeroRun gs + 1 else 0
  | [] => 0

/-- Where the first longest run of zero groups starts, and its length. -/
def longestZeros (gs : List UInt16) : Nat × Nat :=
  (List.range gs.length).foldl
    (fun best i => if best.2 < zeroRun (gs.drop i) then (i, zeroRun (gs.drop i)) else best) (0, 0)

def groupsText (gs : List UInt16) : String :=
  ":".intercalate (gs.map fun g => String.ofList (Nat.toDigits 16 g.toNat))

def text (ip : Ipv6) : String :=
  let (start, length) := longestZeros ip.groups
  if 2 ≤ length then
    groupsText (ip.groups.take start) ++ "::" ++ groupsText (ip.groups.drop (start + length))
  else groupsText ip.groups

/-- The IPv4 address inside `::ffff:0:0/96`. -/
def mapped? (ip : Ipv6) : Option Ipv4 :=
  match ip.groups with
  | [0, 0, 0, 0, 0, 0xFFFF, g, h] => some (Ipv4.ofNat (g.toNat * 0x10000 + h.toNat))
  | _ => none

end Ipv6

end NumberRegistry.Net
