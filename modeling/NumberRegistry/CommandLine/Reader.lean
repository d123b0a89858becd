/-
  NumberRegistry.CommandLine.Reader — from arguments to an invocation.

  Arguments are read from left to right. A command word ends the options of the program
  and starts those of the command. An option with a value takes the value after its
  equals sign or the next argument, and counts as read when the argument after that is
  looked at: a fault of its own shows then, unless that argument is one that nothing is
  known about. Help and version are given as soon as they are asked for.
-/
import NumberRegistry.CommandLine.Fault
import NumberRegistry.Text.Likeness

namespace NumberRegistry.CommandLine

open Text

/-- Why reading ends without an invocation. -/
inductive Stop where
  | help (scope : Scope)
  | version
  | fault (f : Fault)
  deriving DecidableEq, Repr

/-- What has been read so far. -/
structure Reading where
  scope : Scope := .program
  /-- The options of this scope, in the order in which they came. -/
  taken : List Opt := []
  /-- The options that came before the command. -/
  before : List Opt := []
  addr : Option String := none
  /-- An option that takes a value and is not yet among `taken`, and the value if it has come. -/
  pending : Option (Opt × Option String) := none
  deriving DecidableEq, Repr

namespace Reading

def fault {α : Type} (f : Fault) : Except Stop α := .error (.fault f)

/-- Counts an option; none may come twice in a scope. -/
def take (r : Reading) (o : Opt) : Except Stop Reading :=
  if r.taken.contains o then fault (.repeated r.scope o)
  else .ok { r with taken := r.taken ++ [o] }

/-- Counts the option that waits, if one does. -/
def settle (r : Reading) : Except Stop Reading :=
  match r.pending with
  | none => .ok r
  | some (o, none) => fault (.missingValue o)
  | some (o, some value) => { r with pending := none, addr := some value }.take o

/-- The options that count when something unknown comes, whatever is wrong with them. -/
def settled (r : Reading) : List Opt :=
  match r.pending with
  | some (o, some _) => if r.taken.contains o then r.taken.erase o else r.taken ++ [o]
  | _ => r.taken

/-- Whether the next argument is the value of an option, if it can be one. -/
def awaitsValue (r : Reading) : Bool :=
  match r.pending with
  | some (_, none) => true
  | _ => false

/-- Reads an option that takes no value. -/
def flag (r : Reading) (o : Opt) : Except Stop Reading := do
  let r ← r.settle
  match o with
  | .help => throw (.help r.scope)
  | .version => throw .version
  | o => r.take o

/-- Reads an option that takes a value. -/
def valued (r : Reading) (o : Opt) (value : Option String) : Except Stop Reading := do
  let r ← r.settle
  let r := { r with pending := some (o, value) }
  if value.isSome then r.settle else return r

/-- The option that a long name is most like. -/
def likeOption? (scope : Scope) (name : String) : Option Opt :=
  (Likeness.similar name (scope.options.map Opt.long)).getLast?.bind scope.long?

/-- What an unknown long name may stand for: an option of the scope, or of the first command
    among the arguments that follow. -/
def tipFor (scope : Scope) (name : String) (rest : List String) : Option Tip :=
  match likeOption? scope name with
  | some o => some (.option o)
  | none =>
    (rest.findSome? fun word => do
      let command ← scope.command? word
      return (command, ← likeOption? command name)).map fun (command, o) => .optionOf command o

def unknownLong (r : Reading) (name : String) (rest : List String) : Fault :=
  let tip := tipFor r.scope name rest
  let used := match tip with
    | some (.option o) => r.settled ++ [o]
    | _ => r.settled
  .unknownArgument r.scope ("--" ++ name) tip used

def readLong (r : Reading) (name : String) (value : Option String) (rest : List String) :
    Except Stop Reading :=
  match r.scope.long? name with
  | none => fault (r.unknownLong name rest)
  | some o =>
    if o.value?.isSome then r.valued o value
    else
      match value with
      | some v => fault (.needlessValue r.scope o v (r.taken ++ [o]))
      | none => r.flag o

def readShorts (r : Reading) : List Char → Except Stop Reading
  | [] => .ok r
  | c :: cs =>
    match r.scope.short? c with
    | none => fault (.unknownArgument r.scope (String.ofList ['-', c]) none [])
    | some o =>
      match r.flag o with
      | .ok r => r.readShorts cs
      | .error stop => .error stop

/-- The fault of a word that is no option, no value and no command. -/
def strayWord (scope : Scope) (word : String) (afterDashes : Bool) : Fault :=
  if afterDashes ∧ (scope.command? word).isSome then
    .unknownArgument scope word (some (.withoutDashes word)) []
  else if scope.commands.isEmpty then .unknownArgument scope word none []
  else
    let names := Likeness.similar word (scope.commands.map Scope.name)
    .unknownCommand scope word (if names.isEmpty then none else some (.commands names))

/-- Every word after `help` has to lead from command to command. -/
def helpFor (scope : Scope) : List String → Stop
  | [] => .help scope
  | word :: rest =>
    match scope.command? word with
    | some command => helpFor command rest
    | none => .fault (.unknownCommand scope word none)

def invocation (r : Reading) : Invocation :=
  let given (o : Opt) : Bool := r.before.contains o || r.taken.contains o
  { verbose := given .verbose
    logJson := given .logJson
    command := match r.scope with
      | .migrate => .migrate
      | .checkConfig => .checkConfig
      | _ => .serve r.addr (r.taken.contains .migrate) }

/-- The name and the value of a long option, split at the equals sign. -/
def splitLong (cs : List Char) : String × Option String :=
  match cs.span (· ≠ '=') with
  | (name, _ :: value) => (String.ofList name, some (String.ofList value))
  | (name, []) => (String.ofList name, none)

def read (r : Reading) : List String → Except Stop Invocation
  | [] => r.settle.map invocation
  | word :: rest =>
    match (if r.awaitsValue then none else r.scope.command? word) with
    | some .help => .error (helpFor .program rest)
    | some command => read { scope := command, before := r.taken } rest
    | none =>
      match word.toList with
      | ['-', '-'] =>
        match rest with
        | [] => r.settle.map invocation
        | word :: _ => fault (strayWord r.scope word true)
      | '-' :: '-' :: cs =>
        match r.readLong (splitLong cs).1 (splitLong cs).2 rest with
        | .ok r => read r rest
        | .error stop => .error stop
      | '-' :: c :: cs =>
        match r.readShorts (c :: cs) with
        | .ok r => read r rest
        | .error stop => .error stop
      | _ =>
        match r.pending with
        | some (o, none) => read { r with pending := some (o, some word) } rest
        | _ => fault (strayWord r.scope word false)

end Reading

/-- Reads the arguments of the program. -/
def parse (args : List String) : Except Stop Invocation := Reading.read {} args

end NumberRegistry.CommandLine
