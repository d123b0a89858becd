/-
  NumberRegistry.Url.Parser — reading a URL.

  White space around the text and line breaks anywhere in it do not count. What cannot
  stand in a part is percent-encoded there, `.` and `..` are resolved, a special
  scheme's default port is dropped, and its backslashes are slashes.
-/
import NumberRegistry.Url.Host

namespace NumberRegistry.Url

open Text

/-! ## Scheme -/

def isSchemeChar (c : Char) : Bool := c.isAlphanum || c == '+' || c == '-' || c == '.'

/-- The scheme in small letters, and what follows its colon. -/
def splitScheme? (s : List Char) : Option (String × List Char) :=
  match s with
  | [] => none
  | c :: _ =>
    if c.isAlpha then
      match s.dropWhile isSchemeChar with
      | ':' :: rest => some (String.ofList ((s.takeWhile isSchemeChar).map Char.toLower), rest)
      | _ => none
    else none

/-! ## Path -/

def isSlash (special : Bool) (c : Char) : Bool := c == '/' || (special && c == '\\')

/-- The raw segments of a path. -/
def splitSegments (special : Bool) : List Char → List (List Char)
  | [] => [[]]
  | c :: cs =>
    if isSlash special c then [] :: splitSegments special cs
    else
      match splitSegments special cs with
      | w :: ws => (c :: w) :: ws
      | [] => [[c]]

def isDot (s : List Char) : Bool := s == ['.'] || s.map Char.toLower == ['%', '2', 'e']

def isDotDot (s : List Char) : Bool :=
  ["..", ".%2e", "%2e.", "%2e%2e"].contains (String.ofList (s.map Char.toLower))

/-- Goes along the segments; `done` is the path so far. A dot segment at the end leaves
    the path ending in a slash. -/
def resolveDots (done : List String) : List (List Char) → List String
  | [] => done
  | s :: rest =>
    if isDotDot s then
      if rest = [] then done.dropLast ++ [""] else resolveDots done.dropLast rest
    else if isDot s then
      if rest = [] then done ++ [""] else resolveDots done rest
    else resolveDots (done ++ [encodeText inPath s]) rest

def segments (special : Bool) (s : List Char) : List String :=
  resolveDots [] (splitSegments special s)

/-- The path of a URL with an authority; it may be empty unless the scheme is special. -/
def authorityPath (special : Bool) (s : List Char) : Path :=
  match s with
  | [] => .rooted (if special then [""] else [])
  | c :: rest => .rooted (segments special (if isSlash special c then rest else s))

/-! ## Query and fragment -/

/-- What stands before the query and the fragment, and these two. -/
def splitTail (special : Bool) (s : List Char) : List Char × Option String × Option String :=
  let body := s.takeWhile fun c => c ≠ '?' ∧ c ≠ '#'
  let rest := s.dropWhile fun c => c ≠ '?' ∧ c ≠ '#'
  let fragment (t : List Char) : Option String :=
    match t with
    | '#' :: f => some (encodeText inFragment f)
    | _ => none
  match rest with
  | '?' :: q =>
    (body, some (encodeText (inQuery special) (q.takeWhile (· ≠ '#'))),
      fragment (q.dropWhile (· ≠ '#')))
  | t => (body, none, fragment t)

/-! ## Authority -/

def endsAuthority (special : Bool) (c : Char) : Bool := isSlash special c || c == '?' || c == '#'

/-- What stands before and after the last `@`. -/
def splitAt? (s : List Char) : Option (List Char × List Char) :=
  if s.contains '@' then
    let host := (s.reverse.takeWhile (· ≠ '@')).reverse
    some (s.take (s.length - host.length - 1), host)
  else none

/-- Username and password; an empty password is none. -/
def parseUserinfo (s : List Char) : String × Option String :=
  let name := s.takeWhile (· ≠ ':')
  let rest := (s.dropWhile (· ≠ ':')).drop 1
  (encodeText inUserinfo name, if rest = [] then none else some (encodeText inUserinfo rest))

/-- The host and what follows it: the text up to a colon outside brackets. -/
def splitHost (inside : Bool) : List Char → List Char × List Char
  | [] => ([], [])
  | c :: cs =>
    if c = ':' ∧ !inside then ([], c :: cs)
    else
      let (host, rest) := splitHost (if c = '[' then true else if c = ']' then false else inside) cs
      (c :: host, rest)

/-- A port and the text after it; a non-special URL's port may end at a backslash. -/
def parsePort (default : Option UInt16) (s : List Char) :
    Except ParseError (Option UInt16 × List Char) :=
  let digits := s.takeWhile Char.isDigit
  let rest := s.dropWhile Char.isDigit
  let n := (Net.Reader.spanDigits Decimal.digit? digits).1.foldl (fun a d => a * 10 + d) 0
  if 65535 < n then .error .port
  else if rest.head?.any (fun c => c ≠ '\\') then .error .port
  else if digits = [] ∨ some (UInt16.ofNat n) = default then .ok (none, rest)
  else .ok (some (UInt16.ofNat n), rest)

/-- A special URL does not go without a host. -/
def parseHost (special : Bool) (s : List Char) : Except ParseError Host :=
  if !special then Host.parsePlain s
  else if s = [] then .error .emptyHost
  else Host.parseDomain s

/-- The port after a colon and the text after it, or neither. -/
def optionalPort (default : Option UInt16) (s : List Char) :
    Except ParseError (Option UInt16 × List Char) :=
  match s with
  | ':' :: digits => parsePort default digits
  | _ => .ok (none, [])

/-- Reads host and port, and the path after them. A host behind a user or in front of a
    port is not empty. -/
def parsePlace (scheme : String) (hasUser : Bool) (s path : List Char) :
    Except ParseError (Host × Option UInt16 × Path) := do
  let (hostText, portText) := splitHost false s
  let host ← parseHost (isSpecial scheme) hostText
  if host = .name "" ∧ (portText ≠ [] ∨ hasUser) then throw .emptyHost
  let (port, rest) ← optionalPort (defaultPort? scheme) portText
  return (host, port, authorityPath (isSpecial scheme) (rest ++ path))

/-- Reads an authority and the path after it; `more` tells whether a query or a fragment
    follows. The userinfo ends at the last `@` before the first slash. -/
def parseAuthority (scheme : String) (more : Bool) (s : List Char) :
    Except ParseError (Authority × Path) := do
  let slash := isSlash (isSpecial scheme)
  let front := s.takeWhile fun c => !slash c
  let path := s.dropWhile fun c => !slash c
  let (username, password, rest) ← match splitAt? front with
    | none => pure ("", none, front)
    | some ([], rest) =>
      if rest = [] ∧ (path ≠ [] ∨ more) then throw .emptyHost else pure ("", none, rest)
    | some (user, rest) => let (u, p) := parseUserinfo user; pure (u, p, rest)
  let (host, port, path) ← parsePlace scheme (username ≠ "" || password.isSome) rest path
  return (⟨username, password, host, port⟩, path)

/-! ## Files -/

def isDriveLetter (s : List Char) : Bool :=
  match s with
  | [c, d] => c.isAlpha && (d == ':' || d == '|')
  | _ => false

/-- A drive letter keeps its place at the head of a path, and ends in a colon. -/
def resolveFileDots (done : List String) : List (List Char) → List String
  | [] => done
  | s :: rest =>
    let shorter := if done.length = 1 ∧ done.any (isDriveLetter ·.toList) then done else done.dropLast
    if isDotDot s then
      if rest = [] then shorter ++ [""] else resolveFileDots shorter rest
    else if isDot s then
      if rest = [] then done ++ [""] else resolveFileDots done rest
    else
      let text := if done = [] ∧ isDriveLetter s then String.ofList (s.take 1 ++ [':'])
        else encodeText inPath s
      resolveFileDots (done ++ [text]) rest

/-- A first segment that goes on after a drive letter is two segments. -/
def splitDrive : List (List Char) → List (List Char)
  | (c :: ':' :: d :: s) :: rest => if c.isAlpha then [c, ':'] :: (d :: s) :: rest
    else (c :: ':' :: d :: s) :: rest
  | ss => ss

def dropEmptyHead : List String → List String
  | "" :: s :: rest => dropEmptyHead (s :: rest)
  | ss => ss

def filePath (s : List Char) : Path :=
  let s := match s with
    | c :: rest => if isSlash true c then rest else s
    | [] => []
  .rooted (dropEmptyHead (resolveFileDots [] (splitDrive (splitSegments true s))))

def startsWithDrive (p : Path) : Bool :=
  match p with
  | .rooted (s :: _) => isDriveLetter s.toList
  | _ => false

/-- A file URL has an empty host where none is given, and on a drive. -/
def parseFile (s : List Char) : Except ParseError (Authority × Path) := do
  let noHost : Authority := ⟨"", none, .name "", none⟩
  match s with
  | a :: b :: rest =>
    if isSlash true a ∧ isSlash true b then
      let hostText := rest.takeWhile fun c => !isSlash true c
      let path := filePath (rest.dropWhile fun c => !isSlash true c)
      if isDriveLetter hostText then return (noHost, filePath rest)
      else if hostText = [] then return (noHost, path)
      else
        let host ← Host.parseDomain hostText
        if host = .name "localhost" ∨ startsWithDrive path then return (noHost, path)
        else return ({ noHost with host }, path)
    else return (noHost, filePath s)
  | _ => return (noHost, filePath s)

/-! ## URLs -/

def isBreak (c : Char) : Bool := c == '\t' || c == '\n' || c == '\r'

def isMargin (c : Char) : Bool := c.toNat ≤ 0x20

/-- What of a text counts. -/
def content (s : List Char) : List Char :=
  (((s.dropWhile isMargin).reverse.dropWhile isMargin).reverse).filter fun c => !isBreak c

/-- Authority and path of a URL that is not special. -/
def parseOrdinary (scheme : String) (more : Bool) (s : List Char) :
    Except ParseError (Option Authority × Path) :=
  match s with
  | '/' :: '/' :: rest => do
    let (a, p) ← parseAuthority scheme more rest
    return (some a, p)
  | '/' :: rest => return (none, .rooted (segments false rest))
  | _ => return (none, .rootless (encodeText isControl s))

def parse (text : String) : Except ParseError Url :=
  match splitScheme? (content text.toList) with
  | none => .error .noScheme
  | some (scheme, rest) => do
    let special := isSpecial scheme
    let (body, query, fragment) := splitTail special rest
    let more := query.isSome || fragment.isSome
    let (authority, path) ←
      if scheme = "file" then (parseFile body).map fun (a, p) => (some a, p)
      else if special then
        (parseAuthority scheme more (body.dropWhile (isSlash true))).map fun (a, p) => (some a, p)
      else parseOrdinary scheme more body
    return { scheme, authority, path, query, fragment }

end NumberRegistry.Url
