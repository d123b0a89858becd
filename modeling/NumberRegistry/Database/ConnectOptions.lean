/-
  NumberRegistry.Database.ConnectOptions — what a connection string says.

  It is a URL of any scheme. User, password and database name are percent-encoded;
  parameters of the query override what stands before it. Unknown parameters are passed
  over, with a warning for each.
-/
import NumberRegistry.Failure
import NumberRegistry.Http.Form
import NumberRegistry.Net.AddressReader
import NumberRegistry.Text.Quoted
import NumberRegistry.Url.Parser

namespace NumberRegistry.Database

open Text

inductive SslMode where
  | disable
  | allow
  | prefer
  | require
  | verifyCa
  | verifyFull
  deriving DecidableEq, Repr

def SslMode.names : List (String × SslMode) :=
  [("disable", .disable), ("allow", .allow), ("prefer", .prefer), ("require", .require),
    ("verify-ca", .verifyCa), ("verify-full", .verifyFull)]

/-- Whether there is no connection without encryption. -/
def SslMode.isStrict : SslMode → Bool
  | .disable | .allow | .prefer => false
  | .require | .verifyCa | .verifyFull => true

structure ConnectOptions where
  host : String := "localhost"
  port : UInt16 := 5432
  user : Option String := none
  password : Option String := none
  database : Option String := none
  sslMode : SslMode := .prefer
  deriving DecidableEq, Repr

/-- A parameter that means nothing, with its value. -/
abbrev Unrecognized := String × String

namespace ConnectOptions

def misconfigured {α : Type} (text : String) : Except Error α := .error (.configuration (.other text))

/-- The text that a percent-encoded part stands for. -/
def decodePart (s : String) : Except Error String :=
  match Utf8.decode? (Percent.decode s.toList) with
  | .ok cs => .ok (String.ofList cs)
  | .error fault => misconfigured fault.message

def readSslMode (value : String) : Except Error SslMode :=
  match SslMode.names.lookup (String.ofList (value.toList.map Char.toLower)) with
  | some mode => .ok mode
  | none =>
    .error (.configuration (.configuration
      (.other ("unknown value " ++ Quoted.encode value ++ " for \x60ssl_mode\x60"))))

def readNumber (max : Nat) (value : String) : Except Error Nat :=
  match Decimal.parseNat max value.toList with
  | .ok n => .ok n
  | .error e => misconfigured e.message

def isAddress (value : String) : Bool :=
  (match Net.Reader.ipv4 value.toList with | some (_, []) => true | _ => false) ||
    (Net.Ipv6.parse? value.toList).isSome

/-- Parameters that are taken and have no part in reaching the server. -/
def isQuiet (key : String) : Bool :=
  ["sslrootcert", "ssl-root-cert", "ssl-ca", "sslcert", "ssl-cert", "sslkey", "ssl-key",
    "application_name", "options"].contains key || "options[".toList.isPrefixOf key.toList

/-- Takes one parameter into account, or none of it if it is not known. -/
def parameter (o : ConnectOptions) (key value : String) : Except Error (Option ConnectOptions) :=
  match key with
  | "sslmode" | "ssl-mode" => (readSslMode value).map fun mode => some { o with sslMode := mode }
  | "statement-cache-capacity" => (readNumber (UInt64.size - 1) value).map fun _ => some o
  | "host" => .ok (some { o with host := value })
  | "hostaddr" =>
    if isAddress value then .ok (some { o with host := value })
    else misconfigured "invalid IP address syntax"
  | "port" => (readNumber (UInt16.size - 1) value).map fun n => some { o with port := UInt16.ofNat n }
  | "dbname" => .ok (some { o with database := some value })
  | "user" => .ok (some { o with user := some value })
  | "password" => .ok (some { o with password := some value })
  | _ => .ok (if isQuiet key then some o else none)

/-- Takes all parameters into account, up to the first that is wrong; the second part
    holds those that are not known. -/
def parameters (o : ConnectOptions) :
    List (String × String) → Except Error ConnectOptions × List Unrecognized
  | [] => (.ok o, [])
  | (key, value) :: rest =>
    match o.parameter key value with
    | .error e => (.error e, [])
    | .ok (some o) => o.parameters rest
    | .ok none =>
      let (r, unknown) := o.parameters rest
      (r, (key, value) :: unknown)

def ofAuthority (a : Url.Authority) : Except Error ConnectOptions := do
  let o : ConnectOptions := {}
  let o ← if a.host = .name "" then pure o else
    pure { o with host := ← if a.host.text.startsWith "%2F" || a.host.text.startsWith "%2f" then
      decodePart a.host.text else pure a.host.text }
  let o := { o with port := a.port.getD o.port }
  let o ← if a.username = "" then pure o else pure { o with user := some (← decodePart a.username) }
  match a.password with
  | some p => return { o with password := some (← decodePart p) }
  | none => return o

def databaseName (u : Url) : String :=
  String.ofList (u.path.text.toList.dropWhile (· = '/'))

/-- What stands before the query. -/
def ofUrl (u : Url) : Except Error ConnectOptions := do
  let o ← u.authority.elim (.ok {}) ofAuthority
  let name := databaseName u
  if name = "" then return o else return { o with database := some (← decodePart name) }

def parse (dsn : String) : Except Error ConnectOptions × List Unrecognized :=
  match Url.parse dsn with
  | .error e => (misconfigured e.message, [])
  | .ok u =>
    match ofUrl u with
    | .error e => (.error e, [])
    | .ok o => o.parameters (Http.Form.decode (u.query.getD ""))

/-- Whether nobody has to be asked for the address of a host. -/
def isKnownHost (host : String) : Bool :=
  isAddress host || host.startsWith "[" || host.toLower = "localhost" ||
    (Url.Host.ipv4? host.toList).isSome

/-- What a connection that leaves the machine comes to where there is no network. -/
def unreachable (o : ConnectOptions) : Error :=
  if o.host.startsWith "/" then .io (.other "No such file or directory (os error 2)")
  else if isKnownHost o.host then
    .io (.other "Network is unreachable (os error 101)")
  else .io (.other "failed to lookup address information: Temporary failure in name resolution")

end ConnectOptions

end NumberRegistry.Database
