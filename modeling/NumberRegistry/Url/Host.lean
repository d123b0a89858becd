/-
  NumberRegistry.Url.Host — reading the host of a URL.

  In a special URL a host is a domain name, unless its last label is a number: then the
  whole has to be an IPv4 address, whose parts may be octal or hexadecimal and whose last
  part covers all octets left. In other URLs a host is any text without delimiters.
-/
import NumberRegistry.Net.AddressReader
import NumberRegistry.Url.Basic
import NumberRegistry.Url.Domain

namespace NumberRegistry.Url.Host

open Text Net

/-! ## IPv4 -/

def digitBelow (radix : Nat) (c : Char) : Option Nat :=
  (Percent.hexValue? c).bind fun d => if d < radix then some d else none

def readRadix (radix : Nat) (s : List Char) : Option Nat :=
  (s.mapM (digitBelow radix)).map (Reader.ofDigits radix)

/-- One part of an IPv4 address; `0x` alone is zero. -/
def part? (s : List Char) : Option Nat :=
  match s with
  | [] => none
  | '0' :: 'x' :: ds => readRadix 16 ds
  | '0' :: 'X' :: ds => readRadix 16 ds
  | '0' :: d :: ds => readRadix 8 (d :: ds)
  | ds => readRadix 10 ds

/-- The labels of a name, without an empty last one. -/
def parts (s : List Char) : List (List Char) :=
  let ls := Domain.labels s
  if 1 < ls.length ∧ ls.getLast? = some [] then ls.dropLast else ls

def endsInNumber (s : List Char) : Bool :=
  match (parts s).getLast? with
  | some last => (last ≠ [] && last.all Char.isDigit) || (part? last).isSome
  | none => false

/-- The last number fills the octets that the others leave. -/
def combine (front : List Nat) (last : Nat) : Option Ipv4 :=
  let room := 1 <<< (8 * (4 - front.length))
  if 3 < front.length ∨ front.any (255 < ·) ∨ room ≤ last then none
  else some (Ipv4.ofNat (Reader.ofDigits 256 front * room + last))

def ipv4? (s : List Char) : Option Ipv4 := do
  let ns ← (parts s).mapM part?
  let last ← ns.getLast?
  combine ns.dropLast last

/-! ## Hosts -/

def bracketed (s : List Char) : Except ParseError Host :=
  match s.getLast? with
  | some ']' =>
    match Ipv6.parse? s.dropLast with
    | some ip => .ok (.ipv6 ip)
    | none => .error .ipv6Address
  | _ => .error .ipv6Address

def parseDomain (s : List Char) : Except ParseError Host :=
  match s with
  | '[' :: rest => bracketed rest
  | _ =>
    match Domain.toAscii? (Percent.decode s) with
    | none => .error .domainName
    | some domain =>
      if domain = "" then .error .emptyHost
      else if endsInNumber domain.toList then
        match ipv4? domain.toList with
        | some ip => .ok (.ipv4 ip)
        | none => .error .ipv4Address
      else .ok (.name domain)

def isDelimiter (c : Char) : Bool := "\x00\t\n\r #/:<>?@[\\]^|".toList.contains c

def parsePlain (s : List Char) : Except ParseError Host :=
  match s with
  | '[' :: rest => bracketed rest
  | _ => if s.any isDelimiter then .error .hostCharacter else .ok (.name (encodeText isControl s))

end NumberRegistry.Url.Host
