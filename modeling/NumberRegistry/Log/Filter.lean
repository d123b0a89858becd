/-
  NumberRegistry.Log.Filter — which events reach the log.

  A filter is a list of directives, each a level for the targets that start with some
  text. The most specific directive for a target decides, and the later one of two for
  the same targets. Directives for spans say nothing about events outside of them.
-/
import NumberRegistry.Log.Basic
import NumberRegistry.Text.Classes

namespace NumberRegistry.Log

open Text

structure Directive where
  target : String := ""
  /-- The most detailed level that passes, if any does. -/
  level : Option Level
  deriving DecidableEq, Repr

abbrev Filter := List Directive

def Directive.concerns (d : Directive) (target : String) : Bool :=
  d.target.toList.isPrefixOf target.toList

def Filter.deciding? (f : Filter) (target : String) : Option Directive :=
  (f.filter (·.concerns target)).foldl
    (fun best d =>
      match best with
      | some b => if b.target.utf8ByteSize ≤ d.target.utf8ByteSize then some d else some b
      | none => some d)
    none

def Filter.admits (f : Filter) (e : Event) : Bool :=
  match (f.deciding? e.target).bind (·.level) with
  | some level => decide (e.level.detail ≤ level.detail)
  | none => false

/-- Everything up to a level. -/
def Filter.upTo (level : Level) : Filter := [{ level := some level }]

namespace Filter

def lower (cs : List Char) : List Char := cs.map Char.toLower

/-- Reads the name or the number of a level; the inner `none` lets nothing pass. -/
def level? (cs : List Char) : Option (Option Level) :=
  match Decimal.parseNat (UInt64.size - 1) cs with
  | .ok 0 => some none
  | .ok n => (Level.all.find? (·.detail = n)).map some
  | .error _ =>
    if lower cs = "off".toList then some none
    else (Level.all.find? fun l => lower l.name.toList = lower cs).map some

/-- The level after an equals sign; every level if there is none. -/
def givenLevel? (cs : List Char) : Option (Option Level) :=
  if cs.isEmpty then some (some .trace) else level? cs

def isStart (c : Char) : Bool := ['-', ':', '_'].contains c || alphanumeric.mem c

/-- Whether the rest of a directive after its span is in order. -/
def afterSpan : List Char → Bool
  | [] => true
  | '=' :: level => (givenLevel? level).isSome
  | _ => false

/-- Whether the fields of a span, and what follows, are in order. -/
def afterFields (cs : List Char) : Bool :=
  let (fields, rest) := cs.span (· ≠ '\x7d')
  match rest with
  | _ :: ']' :: rest => !fields.isEmpty && afterSpan rest
  | _ => false

def afterBracket (cs : List Char) : Bool :=
  match (cs.span fun c => c ≠ ']' && c ≠ '\x7b').2 with
  | ']' :: rest => afterSpan rest
  | _ :: rest => afterFields rest
  | [] => false

/-- Reads a directive; the inner `none` is one for a span. -/
def directive? (cs : List Char) : Option (Option Directive) :=
  match trim cs with
  | [] => none
  | '[' :: rest => if afterBracket rest then some none else none
  | c :: rest =>
    if !isStart c then none
    else
      let (name, after) := rest.span fun c => c ≠ '=' && c ≠ '['
      let size := name.length + 1
      match after with
      | '=' :: _ =>
        (givenLevel? (cs.drop (size + 1))).map fun level =>
          some { target := String.ofList (cs.take size), level }
      | _ :: after => if afterBracket after then some none else none
      | [] =>
        match level? cs with
        | some level => some (some { level })
        | none => some (some { target := String.ofList cs, level := some .trace })

/-- Reads directives with commas between them. None at all let errors pass. -/
def parse? (s : String) : Option Filter :=
  let parts := (s.splitOn ",").filter (· ≠ "")
  if parts.isEmpty then some (upTo .error)
  else (parts.mapM fun p => directive? p.toList).map (·.filterMap id)

end Filter

end NumberRegistry.Log
