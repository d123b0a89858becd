/-
  NumberRegistry.Http.Target — what a request asks for: a path and a query.

  A target is `*`, a path with an optional query, a bare authority, or an absolute URL.
  Nothing is decoded or normalised. A fragment is dropped.
-/
import NumberRegistry.Text.Utf8

namespace NumberRegistry.Http

open Text (Utf8.encode)

inductive TargetError where
  | empty
  | character
  | format
  | authority
  | tooLong
  | schemeTooLong
  deriving DecidableEq, Repr

def TargetError.message : TargetError → String
  | .empty => "empty string"
  | .character => "invalid uri character"
  | .format => "invalid format"
  | .authority => "invalid authority"
  | .tooLong => "uri too long"
  | .schemeTooLong => "scheme too long"

structure Target where
  path : String
  query : Option String
  deriving DecidableEq, Repr

namespace Target

/-! ## Path and query -/

def isPathChar (c : Char) : Bool :=
  let n := c.toNat
  n == 0x21 || (0x24 ≤ n && n ≤ 0x3B) || n == 0x3D || (0x40 ≤ n && n ≤ 0x5F) ||
    (0x61 ≤ n && n ≤ 0x7A) || n == 0x7C || 0x7E ≤ n || c == '"' || c == '\x7b' || c == '\x7d'

def isQueryChar (c : Char) : Bool :=
  let n := c.toNat
  n == 0x21 || (0x24 ≤ n && n ≤ 0x3B) || n == 0x3D || 0x3F ≤ n

def parsePath (s : List Char) : Except TargetError Target :=
  let s := s.takeWhile (· ≠ '#')
  let path := s.takeWhile (· ≠ '?')
  if path.all isPathChar then
    match s.dropWhile (· ≠ '?') with
    | '?' :: query =>
      if query.all isQueryChar then
        .ok ⟨String.ofList path, some (String.ofList query)⟩
      else .error .character
    | _ => .ok ⟨String.ofList path, none⟩
  else .error .character

/-- The path of an absolute URL is never empty. -/
def rooted (t : Target) : Target := if t.path = "" then { t with path := "/" } else t

/-! ## Authority -/

def isAuthorityChar (c : Char) : Bool :=
  c.isAlphanum || "!$&'()*+,-.:;=@[]_~".toList.contains c

/-- What a reader of an authority remembers: colons since the last `@` or `]`, brackets
    seen, whether a percent sign came since, and whether the last character is an `@`. -/
structure AuthorityScan where
  colons : Nat := 0
  opened : Bool := false
  closed : Bool := false
  percent : Bool := false
  endsInAt : Bool := false

def scanChar (c : Char) (a : AuthorityScan) : Except TargetError AuthorityScan :=
  let a := { a with endsInAt := false }
  match c with
  | ':' => if 8 ≤ a.colons then .error .authority else .ok { a with colons := a.colons + 1 }
  | '[' => if a.percent || a.opened then .error .authority else .ok { a with opened := true }
  | ']' =>
    if !a.opened || a.closed then .error .authority
    else .ok { a with closed := true, colons := 0, percent := false }
  | '@' => .ok { a with colons := 0, percent := false, endsInAt := true }
  | '%' => .ok { a with percent := true }
  | c => if isAuthorityChar c then .ok a else .error .character

def scanFrom (a : AuthorityScan) : List Char → Except TargetError AuthorityScan
  | [] => .ok a
  | c :: cs => (scanChar c a).bind fun a => scanFrom a cs

def endsAuthority (c : Char) : Bool := c == '/' || c == '?' || c == '#'

/-- Checks the authority that a text begins with; gives what follows it. -/
def checkAuthority (s : List Char) : Except TargetError (List Char) := do
  let a ← scanFrom {} (s.takeWhile fun c => !endsAuthority c)
  if a.opened ≠ a.closed ∨ 1 < a.colons ∨ a.endsInAt ∨ a.percent then throw .authority
  return s.dropWhile fun c => !endsAuthority c

/-! ## Scheme -/

def isSchemeChar (c : Char) : Bool :=
  c.isAlphanum || c == '+' || c == '-' || c == '.' || c == '~'

/-- What follows `scheme://`, if a text begins so. -/
def afterScheme? (s : List Char) : Except TargetError (Option (List Char)) :=
  let scheme := s.takeWhile isSchemeChar
  match s.dropWhile isSchemeChar with
  | ':' :: '/' :: '/' :: rest =>
    if 64 < scheme.length then .error .schemeTooLong else .ok (some rest)
  | _ => .ok none

def parseAbsolute (s : List Char) : Except TargetError Target := do
  match ← afterScheme? s with
  | none =>
    if (← checkAuthority s) = [] then return ⟨"", none⟩ else throw .format
  | some rest =>
    let tail ← checkAuthority rest
    if tail.length = rest.length then throw .format
    return (← parsePath tail).rooted

def parse (text : String) : Except TargetError Target :=
  let s := text.toList
  if 65534 < (Utf8.encode s).length then .error .tooLong
  else
    match s with
    | [] => .error .empty
    | ['*'] => .ok ⟨"*", none⟩
    | '/' :: _ => parsePath s
    | [c] => do
      if (← checkAuthority [c]) = [] then return ⟨"", none⟩ else throw .character
    | _ => parseAbsolute s

end Target

end NumberRegistry.Http
