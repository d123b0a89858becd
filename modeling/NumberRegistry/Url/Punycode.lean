/-
  NumberRegistry.Url.Punycode — a list of characters written with ASCII alone.

  The ASCII characters come first, in order; then, in the order of their code points, the
  others, each as the number of steps from the one before in a variable-length base 36
  whose digit weights follow the size of the last step (RFC 3492).
-/
namespace NumberRegistry.Url.Punycode

def digitChar (d : Nat) : Char := if d < 26 then Char.ofNat (97 + d) else Char.ofNat (22 + d)

def digitValue? (c : Char) : Option Nat :=
  if 'a' ≤ c ∧ c ≤ 'z' then some (c.toNat - 97)
  else if 'A' ≤ c ∧ c ≤ 'Z' then some (c.toNat - 65)
  else if '0' ≤ c ∧ c ≤ '9' then some (c.toNat - 22)
  else none

/-- The least value of the digit at weight `k` that more digits follow. -/
def threshold (bias k : Nat) : Nat :=
  if k ≤ bias then 1 else if bias + 26 ≤ k then 26 else k - bias

theorem threshold_bounds (bias k : Nat) : 1 ≤ threshold bias k ∧ threshold bias k ≤ 26 := by
  unfold threshold
  split
  · omega
  · split <;> omega

def settle (k delta : Nat) : Nat :=
  if 455 < delta then settle (k + 36) (delta / 35) else k + 36 * delta / (delta + 38)
termination_by delta
decreasing_by omega

/-- The bias after a step of `delta`, with `count` characters written. -/
def adapt (delta count : Nat) (first : Bool) : Nat :=
  let d := if first then delta / 700 else delta / 2
  settle 0 (d + d / count)

def digits (bias k q : Nat) : List Char :=
  let t := threshold bias k
  if q < t then [digitChar q]
  else digitChar (t + (q - t) % (36 - t)) :: digits bias (k + 36) ((q - t) / (36 - t))
termination_by q
decreasing_by
  have := threshold_bounds bias k
  exact Nat.lt_of_le_of_lt (Nat.div_le_self _ _) (by omega)

structure Progress where
  out : List Char
  delta : Nat
  bias : Nat
  written : Nat

/-- Passes over one character while the characters with code point `m` are written. -/
def visit (basic m : Nat) (p : Progress) (c : Char) : Progress :=
  if c.toNat < m then { p with delta := p.delta + 1 }
  else if c.toNat = m then
    { out := p.out ++ digits p.bias 36 p.delta
      delta := 0
      bias := adapt p.delta (p.written + 1) (p.written == basic)
      written := p.written + 1 }
  else p

/-- Writes the code points of a sorted list, `n` being the next one not yet passed. -/
def encodeFrom (s : List Char) (basic : Nat) : List Nat → Nat → Progress → Progress
  | [], _, p => p
  | m :: ms, n, p =>
    let start := { p with delta := p.delta + (m - n) * (p.written + 1) }
    let done := s.foldl (visit basic m) start
    encodeFrom s basic ms (m + 1) { done with delta := done.delta + 1 }

def encode (s : List Char) : List Char :=
  let ascii := s.filter (·.toNat < 128)
  let others := ((s.map Char.toNat).filter (128 ≤ ·)).mergeSort.eraseDups
  let start := if ascii = [] then [] else ascii ++ ['-']
  (encodeFrom s ascii.length others 128 ⟨start, 0, 72, ascii.length⟩).out

/-- Reads a number: its digits are worth `weight`, and the first one that is below its
    threshold is the last. -/
def readNumber (bias : Nat) : (k i weight : Nat) → List Char → Option (Nat × List Char)
  | _, _, _, [] => none
  | k, i, weight, c :: cs =>
    match digitValue? c with
    | none => none
    | some d =>
      let t := threshold bias k
      if d < t then some (i + d * weight, cs)
      else readNumber bias (k + 36) (i + d * weight) (weight * (36 - t)) cs

theorem readNumber_length_lt {bias k i w : Nat} {s : List Char} {n : Nat} {rest : List Char}
    (h : readNumber bias k i w s = some (n, rest)) : rest.length < s.length := by
  induction s generalizing k i w with
  | nil => simp [readNumber] at h
  | cons c cs ih =>
    unfold readNumber at h
    split at h
    · simp at h
    · simp only at h
      split at h
      · simp only [Option.some.injEq, Prod.mk.injEq] at h
        simp [← h.2]
      · exact Nat.lt_succ_of_lt (ih h)

def insertAt (s : List Nat) (i n : Nat) : List Nat := s.take i ++ n :: s.drop i

/-- Inserts the characters that the rest of the text stands for. -/
def decodeFrom (n i bias : Nat) (out : List Nat) (s : List Char) : Option (List Nat) :=
  if s = [] then some out
  else
    match h : readNumber bias 36 i 1 s with
    | none => none
    | some (j, rest) =>
      have := readNumber_length_lt h
      let count := out.length + 1
      let m := n + j / count
      if 0x10FFFF < m then none
      else
        decodeFrom m (j % count + 1) (adapt (j - i) count (i == 0))
          (insertAt out (j % count) m) rest
termination_by s.length

def toChar? (n : Nat) : Option Char := if h : n.isValidChar then some (Char.ofNatAux n h) else none

/-- The characters before the last hyphen stand for themselves; a hyphen in front of
    everything is none of these. -/
def decode? (s : List Char) : Option (List Char) :=
  let tail := (s.reverse.takeWhile (· ≠ '-')).reverse
  let front := s.take (s.length - tail.length - 1)
  if front = [] then (decodeFrom 128 0 72 [] s).bind (·.mapM toChar?)
  else if front.any (128 ≤ ·.toNat) then none
  else (decodeFrom 128 0 72 (front.map Char.toNat) tail).bind (·.mapM toChar?)

end NumberRegistry.Url.Punycode
