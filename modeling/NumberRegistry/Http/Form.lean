/-
  NumberRegistry.Http.Form — key/value pairs in a query.

  Pairs are separated by `&`, key and value by the first `=`. A plus sign is a space, and
  bytes that are no UTF-8 become U+FFFD.
-/
import NumberRegistry.Text.Percent

namespace NumberRegistry.Http.Form

open Text

def splitOn (sep : Char) : List Char → List (List Char)
  | [] => [[]]
  | c :: cs =>
    if c = sep then [] :: splitOn sep cs
    else
      match splitOn sep cs with
      | w :: ws => (c :: w) :: ws
      | [] => [[c]]

def plusToSpace (c : Char) : Char := if c = '+' then ' ' else c

def decodePart (s : List Char) : String :=
  String.ofList (Utf8.decodeLossy (Percent.decode (s.map plusToSpace)))

def decodePair (s : List Char) : String × String :=
  (decodePart (s.takeWhile (· ≠ '=')), decodePart ((s.dropWhile (· ≠ '=')).drop 1))

def decode (query : String) : List (String × String) :=
  ((splitOn '&' query.toList).filter (· ≠ [])).map decodePair

/-- The characters that stand for themselves. -/
def isPlain (c : Char) : Bool :=
  c.isAlphanum || c == '*' || c == '-' || c == '.' || c == '_'

def encodeChar (c : Char) : List Char :=
  if c = ' ' then ['+'] else Percent.encodeChar (fun c => !isPlain c) c

def encodePart (s : String) : List Char := s.toList.flatMap encodeChar

def encodePair (p : String × String) : List Char := encodePart p.1 ++ '=' :: encodePart p.2

def encode (pairs : List (String × String)) : String :=
  String.ofList (['&'].intercalate (pairs.map encodePair))

end NumberRegistry.Http.Form
