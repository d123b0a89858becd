/-
  NumberRegistry.Url.Domain — the ASCII form of a domain name.

  Characters are mapped (capitals to small letters, and so on), the result is put into
  normal form, and each label is then either ASCII already or written in Punycode behind
  `xn--`. A label that comes in Punycode has to stand for what mapping would have left
  as it is. Names with right-to-left letters obey the rules for mixed directions, and
  the invisible joiners may only stand where they change how letters join.
-/
import NumberRegistry.Text.Normal
import NumberRegistry.Text.Utf8
import NumberRegistry.Url.DomainMapping
import NumberRegistry.Url.DomainScript
import NumberRegistry.Url.Punycode

namespace NumberRegistry.Url.Domain

open Text

/-- ASCII characters that no host may hold. -/
def isForbidden (c : Char) : Bool :=
  c.toNat ≤ 0x20 || c.toNat == 0x7F || "%#/:<>?@[\\]^|".toList.contains c

/-- What becomes of a character; `none` if it is not allowed. -/
def map? (c : Char) : Option (List Char) :=
  match domainMapping.find? c.toNat with
  | some (['V'], _) => some [c]
  | some (['I'], _) => some []
  | some (['A'], i) => some [Char.ofNat (c.toNat + (1 - i % 2))]
  | some ('P' :: n, _) => some [Char.ofNat (c.toNat + number36 n)]
  | some ('N' :: n, _) => some [Char.ofNat (c.toNat - number36 n)]
  | some ('T' :: ns, _) => some ((Normal.numbers ns).map Char.ofNat)
  | _ => none

def labels (s : List Char) : List (List Char) :=
  match s with
  | [] => [[]]
  | '.' :: cs => [] :: labels cs
  | c :: cs =>
    match labels cs with
    | w :: ws => (c :: w) :: ws
    | [] => [[c]]

/-! ## Joiners -/

def joining (c : Char) : List Char := joiningTypes.label c

def isVirama (c : Char) : Bool := Normal.combiningClass c.toNat == 9

/-- `before` is the label up to the character, last character first. -/
def joinerAllowed (before : List Char) (c : Char) (after : List Char) : Bool :=
  if c ≠ '\u200C' ∧ c ≠ '\u200D' then true
  else if (before.head?.map isVirama).getD false then true
  else if c = '\u200D' then false
  else
    let outer (s : List Char) := ((s.dropWhile (joining · == ['T'])).head?.map joining).getD []
    (outer before == ['L'] || outer before == ['D']) && (outer after == ['R'] || outer after == ['D'])

def joinersAllowed (before : List Char) : List Char → Bool
  | [] => true
  | c :: cs => joinerAllowed before c cs && joinersAllowed (c :: before) cs

/-! ## Direction -/

def direction (c : Char) : String := String.ofList (bidiClasses.label c)

def isRightToLeft (c : Char) : Bool := ["R", "AL", "AN"].contains (direction c)

def endsWith (kinds : List String) (s : List Char) : Bool :=
  ((s.reverse.dropWhile (direction · == "NSM")).head?.map fun c => kinds.contains (direction c)).getD
    false

def directionAllowed (s : List Char) : Bool :=
  match s with
  | [] => true
  | c :: _ =>
    if direction c = "L" then
      s.all (fun c => ["L", "EN", "ES", "CS", "ET", "ON", "BN", "NSM"].contains (direction c)) &&
        endsWith ["L", "EN"] s
    else if direction c = "R" ∨ direction c = "AL" then
      s.all (fun c =>
        ["R", "AL", "AN", "EN", "ES", "CS", "ET", "ON", "BN", "NSM"].contains (direction c)) &&
        endsWith ["R", "AL", "EN", "AN"] s &&
        !(s.any (direction · == "EN") && s.any (direction · == "AN"))
    else false

/-! ## Labels -/

def isAscii (s : List Char) : Bool := s.all (·.toNat < 128)

/-- The longest Punycode that is read. -/
def longestCode : Nat := 2000

/-- The longest label that is written in Punycode. -/
def longestLabel : Nat := 1000

/-- The label in Unicode; `none` for one in Punycode that is malformed or stands for
    something mapping would change, and for one that is too long. -/
def unicode? (label : List Char) : Option (List Char) :=
  match label with
  | 'x' :: 'n' :: '-' :: '-' :: code =>
    if longestCode < code.length then none
    else do
      let s ← Punycode.decode? code
      let mapped ← s.mapM map?
      if isAscii s || mapped.flatten ≠ s || Normal.nfc s ≠ s then none else some s
  | _ => if !isAscii label && longestLabel < label.length then none else some label

def labelAllowed (s : List Char) : Bool :=
  !(s.head?.map combiningMarks.mem).getD false && !s.any isForbidden && joinersAllowed [] s

def asciiLabel (s : List Char) : List Char :=
  if isAscii s then s else "xn--".toList ++ Punycode.encode s

/-- The ASCII form of a name; `none` if there is none. -/
def toAscii? (name : Utf8.Bytes) : Option String := do
  let s ← (Utf8.decode? name).toOption
  let mapped ← s.mapM map?
  let us ← (labels (Normal.nfc mapped.flatten)).mapM unicode?
  if us.all labelAllowed && (!us.any (·.any isRightToLeft) || us.all directionAllowed) then
    some (".".intercalate (us.map fun u => String.ofList (asciiLabel u)))
  else none

end NumberRegistry.Url.Domain
