/-
  NumberRegistry.Net.SocketAddress — where a listener binds: an address and a port.

  `1.2.3.4:80` or `[::1%2]:80`. Ports and scope ids may carry leading zeros; a mapped
  IPv4 address is written in dotted form, a zero scope is not written.
-/
import NumberRegistry.Net.AddressReader

namespace NumberRegistry.Net

open Text

inductive SocketAddress where
  | v4 (ip : Ipv4) (port : UInt16)
  | v6 (ip : Ipv6) (scope : UInt32) (port : UInt16)
  deriving DecidableEq, Repr

namespace SocketAddress

def text : SocketAddress → String
  | .v4 ip port => ip.text ++ ":" ++ Decimal.ofNat port.toNat
  | .v6 ip scope port =>
    let host := match ip.mapped? with
      | some inner => "::ffff:" ++ inner.text
      | none => ip.text
    let zone := if scope = 0 then "" else "%" ++ Decimal.ofNat scope.toNat
    "[" ++ host ++ zone ++ "]:" ++ Decimal.ofNat port.toNat

def readPort : Reader UInt16 := fun s => do
  let (_, s) ← Reader.char ':' s
  let (n, s) ← Reader.number (UInt16.size - 1) s
  return (UInt16.ofNat n, s)

def readScope : Reader UInt32 := fun s => do
  let (_, s) ← Reader.char '%' s
  let (n, s) ← Reader.number (UInt32.size - 1) s
  return (UInt32.ofNat n, s)

def readV4 : Reader SocketAddress := fun s => do
  let (ip, s) ← Reader.ipv4 s
  let (port, s) ← readPort s
  return (.v4 ip port, s)

def readV6 : Reader SocketAddress := fun s => do
  let (_, s) ← Reader.char '[' s
  let (ip, s) ← Reader.ipv6 s
  let (scope, s) := (readScope s).getD (0, s)
  let (_, s) ← Reader.char ']' s
  let (port, s) ← readPort s
  return (.v6 ip scope port, s)

/-- The address a whole text stands for. -/
def parse? (s : List Char) : Option SocketAddress :=
  match (readV4 s).or (readV6 s) with
  | some (addr, []) => some addr
  | _ => none

end SocketAddress

end NumberRegistry.Net
