/-
  NumberRegistry.CommandLine.Fault — what can be wrong with a command line.
-/
import NumberRegistry.CommandLine.Help

namespace NumberRegistry.CommandLine

/-- What may have been meant instead. -/
inductive Tip where
  | option (o : Opt)
  /-- The option exists for a command that is named later. -/
  | optionOf (command : Scope) (o : Opt)
  | commands (names : List String)
  /-- The word is a command, but for the dashes before it. -/
  | withoutDashes (name : String)
  deriving DecidableEq, Repr

namespace Tip

def inQuotes (s : String) : String := "'" ++ s ++ "'"

def message : Tip → String
  | .option o => "a similar argument exists: " ++ inQuotes ("--" ++ o.long)
  | .optionOf command o => inQuotes (command.name ++ " --" ++ o.long) ++ " exists"
  | .commands [name] => "a similar subcommand exists: " ++ inQuotes name
  | .commands names =>
    "some similar subcommands exist: " ++ String.intercalate ", " (names.map inQuotes)
  | .withoutDashes name =>
    "subcommand " ++ inQuotes name ++ " exists; to use it, remove the '--' before it"

end Tip

inductive Fault where
  /-- A word that nothing of a scope stands for; `used` are the options to show the usage with. -/
  | unknownArgument (scope : Scope) (word : String) (tip : Option Tip) (used : List Opt)
  | unknownCommand (scope : Scope) (word : String) (tip : Option Tip)
  | repeated (scope : Scope) (o : Opt)
  /-- A value for an option that takes none. -/
  | needlessValue (scope : Scope) (o : Opt) (value : String) (used : List Opt)
  | missingValue (o : Opt)
  deriving DecidableEq, Repr

namespace Fault

def headline : Fault → String
  | .unknownArgument _ word _ _ => "unexpected argument " ++ Tip.inQuotes word ++ " found"
  | .unknownCommand _ word _ => "unrecognized subcommand " ++ Tip.inQuotes word
  | .repeated _ o => "the argument " ++ Tip.inQuotes o.shown ++ " cannot be used multiple times"
  | .needlessValue _ o value _ =>
    "unexpected value " ++ Tip.inQuotes value ++ " for " ++ Tip.inQuotes o.shown ++
      " found; no more were expected"
  | .missingValue o =>
    "a value is required for " ++ Tip.inQuotes o.shown ++ " but none was supplied"

def tip? : Fault → Option Tip
  | .unknownArgument _ _ tip _ => tip
  | .unknownCommand _ _ tip => tip
  | _ => none

def usage? : Fault → Option String
  | .unknownArgument scope _ _ used => some (scope.usageWith used)
  | .unknownCommand scope _ _ => some scope.usage
  | .repeated scope _ => some scope.usage
  | .needlessValue scope _ _ used => some (scope.usageWith used)
  | .missingValue _ => none

def message (f : Fault) : String :=
  "error: " ++ f.headline ++ "\n\n" ++ (f.tip?.elim "" fun t => "  tip: " ++ t.message ++ "\n\n") ++
    (f.usage?.elim "" fun u => "Usage: " ++ u ++ "\n\n") ++
    "For more information, try '--help'.\n"

end Fault

end NumberRegistry.CommandLine
