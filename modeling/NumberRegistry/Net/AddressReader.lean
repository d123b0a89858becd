/-
  NumberRegistry.Net.AddressReader — reading internet addresses.

  An octet carries no superfluous zero; `::` stands for one or more zero groups; the last
  two groups of an IPv6 address may be written as an IPv4 address.
-/
import NumberRegistry.Net.Address
import NumberRegistry.Text.Percent

namespace NumberRegistry.Net

open Text

/-- Takes a thing off the front of a text. -/
abbrev Reader (α : Type) := List Char → Option (α × List Char)

namespace Reader

def spanDigits (digit : Char → Option Nat) : List Char → List Nat × List Char
  | c :: cs =>
    match digit c with
    | some d => let (ds, rest) := spanDigits digit cs; (d :: ds, rest)
    | none => ([], c :: cs)
  | [] => ([], [])

def ofDigits (radix : Nat) (ds : List Nat) : Nat := ds.foldl (fun acc d => acc * radix + d) 0

def char (c : Char) : Reader Unit
  | d :: cs => if d = c then some ((), cs) else none
  | [] => none

/-- One to three digits, no superfluous zero in front, at most 255. -/
def octet : Reader UInt8 := fun s =>
  let (ds, rest) := spanDigits Decimal.digit? s
  let n := ofDigits 10 ds
  if ds = [] ∨ 3 < ds.length ∨ (ds.head? = some 0 ∧ 1 < ds.length) ∨ 255 < n then none
  else some (UInt8.ofNat n, rest)

/-- One to four hexadecimal digits. -/
def group : Reader UInt16 := fun s =>
  let (ds, rest) := spanDigits Percent.hexValue? s
  if ds = [] ∨ 4 < ds.length then none else some (UInt16.ofNat (ofDigits 16 ds), rest)

/-- Any number of digits, with a value of at most `max`. -/
def number (max : Nat) : Reader Nat := fun s =>
  let (ds, rest) := spanDigits Decimal.digit? s
  if ds = [] ∨ max < ofDigits 10 ds then none else some (ofDigits 10 ds, rest)

def ipv4 : Reader Ipv4 := fun s => do
  let (a, s) ← octet s
  let (_, s) ← char '.' s
  let (b, s) ← octet s
  let (_, s) ← char '.' s
  let (c, s) ← octet s
  let (_, s) ← char '.' s
  let (d, s) ← octet s
  return (⟨a, b, c, d⟩, s)

/-- `first`: no colon stands before the group. -/
def colon (first : Bool) : Reader Unit := fun s => if first then some ((), s) else char ':' s

/-- At most `room` groups separated by colons, as many as there are. Where two groups fit,
    an IPv4 address may stand for them and ends the list; the flag tells. -/
def groups (first : Bool) : Nat → List Char → (List UInt16 × Bool) × List Char
  | 0, s => (([], false), s)
  | room + 1, s =>
    match (if room = 0 then none else (colon first s).bind fun p => ipv4 p.2) with
    | some (ip, rest) => ((ip.groups, true), rest)
    | none =>
      match (colon first s).bind fun p => group p.2 with
      | none => (([], false), s)
      | some (g, rest) =>
        let ((gs, dotted), rest) := groups false room rest
        ((g :: gs, dotted), rest)

def ipv6 : Reader Ipv6 := fun s =>
  let ((front, dotted), s) := groups true 8 s
  if front.length = 8 then (Ipv6.ofGroups? front).map (·, s)
  else if dotted then none
  else do
    let (_, s) ← char ':' s
    let (_, s) ← char ':' s
    let ((back, _), s) := groups true (7 - front.length) s
    let ip ← Ipv6.ofGroups? (front ++ List.replicate (8 - front.length - back.length) 0 ++ back)
    return (ip, s)

end Reader

/-- The address a whole text stands for. -/
def Ipv6.parse? (s : List Char) : Option Ipv6 :=
  match Reader.ipv6 s with
  | some (ip, []) => some ip
  | _ => none

end NumberRegistry.Net
