/-
  NumberRegistry.Url.Basic — a URL in its parts, and its text.

  Every part is kept percent-encoded, the way it is written. A path is a list of
  segments, each written after a slash, or for schemes such as `mailto:` one text that
  has no root and against which nothing can be resolved.
-/
import NumberRegistry.Net.Address
import NumberRegistry.Text.Percent

namespace NumberRegistry

open Text Net

namespace Url

inductive Host where
  | name (text : String)
  | ipv4 (ip : Ipv4)
  | ipv6 (ip : Ipv6)
  deriving DecidableEq, Repr

def Host.text : Host → String
  | .name t => t
  | .ipv4 ip => ip.text
  | .ipv6 ip => "[" ++ ip.text ++ "]"

structure Authority where
  username : String
  password : Option String
  host : Host
  port : Option UInt16
  deriving DecidableEq, Repr

def Authority.userinfo (a : Authority) : String :=
  match a.password with
  | some p => a.username ++ ":" ++ p ++ "@"
  | none => if a.username = "" then "" else a.username ++ "@"

def Authority.portText (a : Authority) : String :=
  match a.port with
  | some p => ":" ++ Decimal.ofNat p.toNat
  | none => ""

def Authority.text (a : Authority) : String := a.userinfo ++ a.host.text ++ a.portText

inductive Path where
  | rooted (segments : List String)
  | rootless (text : String)
  deriving DecidableEq, Repr

def Path.text : Path → String
  | .rooted segments => String.join (segments.map ("/" ++ ·))
  | .rootless t => t

end Url

structure Url where
  scheme : String
  authority : Option Url.Authority
  path : Url.Path
  query : Option String
  fragment : Option String
  deriving DecidableEq, Repr

namespace Url

/-- Schemes whose URLs always have a host and a path, with their default ports. -/
def specialPorts : List (String × UInt16) :=
  [("http", 80), ("https", 443), ("ws", 80), ("wss", 443), ("ftp", 21)]

def defaultPort? (scheme : String) : Option UInt16 := specialPorts.lookup scheme

def isSpecial (scheme : String) : Bool := scheme == "file" || (defaultPort? scheme).isSome

/-- Where there is no authority, `/.` keeps a leading empty segment from looking like one. -/
def authorityText (u : Url) : String :=
  match u.authority, u.path with
  | some a, _ => "//" ++ a.text
  | none, .rooted ("" :: _ :: _) => "/."
  | none, _ => ""

def queryText (u : Url) : String := u.query.elim "" ("?" ++ ·)

def fragmentText (u : Url) : String := u.fragment.elim "" ("#" ++ ·)

def text (u : Url) : String :=
  u.scheme ++ ":" ++ u.authorityText ++ u.path.text ++ u.queryText ++ u.fragmentText

def password? (u : Url) : Option String := u.authority.bind (·.password)

def host? (u : Url) : Option Host :=
  match u.authority with
  | some a => if a.host = .name "" then none else some a.host
  | none => none

/-- Why a text is not a URL. -/
inductive ParseError where
  | noScheme
  | rootlessBase
  | ipv6Address
  | port
  | ipv4Address
  | domainName
  | hostCharacter
  | emptyHost
  deriving DecidableEq, Repr

def ParseError.message : ParseError → String
  | .noScheme => "relative URL without a base"
  | .rootlessBase => "relative URL with a cannot-be-a-base base"
  | .ipv6Address => "invalid IPv6 address"
  | .port => "invalid port number"
  | .ipv4Address => "invalid IPv4 address"
  | .domainName => "invalid international domain name"
  | .hostCharacter => "invalid domain character"
  | .emptyHost => "empty host"

/-! The characters each part percent-encodes. -/

def isControl (c : Char) : Bool := c.toNat < 0x20 || 0x7E < c.toNat

def inFragment (c : Char) : Bool :=
  isControl c || c == ' ' || c == '"' || c == '<' || c == '>' || c == '\x60'

def inQuery (special : Bool) (c : Char) : Bool :=
  isControl c || c == ' ' || c == '"' || c == '#' || c == '<' || c == '>' ||
    (special && c == '\x27')

def inPath (c : Char) : Bool :=
  inFragment c || c == '#' || c == '?' || c == '\x7b' || c == '\x7d'

def inUserinfo (c : Char) : Bool :=
  inPath c || c == '/' || c == ':' || c == ';' || c == '=' || c == '@' || c == '[' || c == '\\' ||
    c == ']' || c == '^' || c == '|'

def encodeText (reserved : Char → Bool) (s : List Char) : String :=
  String.ofList (Percent.encode reserved s)

end Url

end NumberRegistry
