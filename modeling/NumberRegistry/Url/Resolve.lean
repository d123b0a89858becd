/-
  NumberRegistry.Url.Resolve — URLs made from URLs: masked, made a base, resolved.
-/
import NumberRegistry.Url.Parser

namespace NumberRegistry.Url

open Text

/-- Replaces the password. A URL without a host, or for a file, has no place for one. -/
def withPassword (password : String) (u : Url) : Url :=
  match u.authority with
  | some a =>
    if a.host = .name "" ∨ u.scheme = "file" then u
    else { u with authority := some { a with
      password := some (encodeText inUserinfo password.toList) } }
  | none => u

/-- Ends a path with a slash, so that resolving against it keeps every segment. A
    rootless path that is empty gets an encoded slash: a bare one would root it. -/
def Path.asDirectory : Path → Path
  | .rooted ss => if ss.getLast? = some "" then .rooted ss else .rooted (ss ++ [""])
  | .rootless t =>
    if t = "" then .rootless "%2F" else if t.toList.getLast? = some '/' then .rootless t
    else .rootless (t ++ "/")

def asDirectory (u : Url) : Url := { u with path := u.path.asDirectory }

/-- Resolves a single name against a base: it takes the place of the last segment. -/
def join (base : Url) (name : String) : Except ParseError Url :=
  match base.path with
  | .rooted ss =>
    .ok { base with path := .rooted (ss.dropLast ++ [name]), query := none, fragment := none }
  | .rootless _ => .error .rootlessBase

/-! ## References -/

/-- A reference without a scheme, of which query and fragment are split off: a host, a
    path from the root, or one from the base's directory. -/
def resolvePath (base : Url) (more : Bool) (body : List Char) :
    Except ParseError (Option Authority × Path) :=
  let special := isSpecial base.scheme
  let slash := isSlash special
  match body with
  | c :: d :: rest =>
    if slash c ∧ slash d then (parseAuthority base.scheme more rest).map fun (a, p) => (some a, p)
    else if slash c then .ok (base.authority, .rooted (segments special (d :: rest)))
    else relative special
  | [c] => if slash c then .ok (base.authority, .rooted [""]) else relative special
  | [] => .ok (base.authority, base.path)
where
  relative (special : Bool) : Except ParseError (Option Authority × Path) :=
    match base.path with
    | .rooted ss => .ok (base.authority, .rooted (resolveDots ss.dropLast (splitSegments special body)))
    | .rootless _ => .error .rootlessBase

/-- Resolves a reference as a redirection gives it. An empty path keeps the base's path,
    and then its query too unless the reference has one. -/
def resolve (base : Url) (reference : String) : Except ParseError Url :=
  let s := content reference.toList
  match splitScheme? s with
  | some _ => parse reference
  | none => do
    let (body, query, fragment) := splitTail (isSpecial base.scheme) s
    match base.path with
    | .rootless _ =>
      if body = [] ∧ query.isNone ∧ fragment.isSome then return { base with fragment }
      else throw .rootlessBase
    | .rooted _ =>
      let (authority, path) ← resolvePath base (query.isSome || fragment.isSome) body
      let query := if body = [] ∧ query.isNone then base.query else query
      return { base with authority, path, query, fragment }

end NumberRegistry.Url
