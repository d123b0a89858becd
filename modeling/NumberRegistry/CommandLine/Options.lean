/-
  NumberRegistry.CommandLine.Options — the commands of the program and their options.
-/
namespace NumberRegistry.CommandLine

inductive Opt where
  | verbose
  | logJson
  | addr
  | migrate
  | help
  | version
  deriving DecidableEq, Repr

namespace Opt

def long : Opt → String
  | .verbose => "verbose"
  | .logJson => "log-json"
  | .addr => "addr"
  | .migrate => "migrate"
  | .help => "help"
  | .version => "version"

def short? : Opt → Option Char
  | .verbose => some 'v'
  | .help => some 'h'
  | .version => some 'V'
  | _ => none

/-- What the value of an option is called, if it takes one. -/
def value? : Opt → Option String
  | .addr => some "ADDR"
  | _ => none

/-- The option as it is written on a command line. -/
def shown (o : Opt) : String :=
  "--" ++ o.long ++ o.value?.elim "" fun v => " <" ++ v ++ ">"

end Opt

/-- The program itself, or one of its commands: where options are read. -/
inductive Scope where
  | program
  | serve
  | migrate
  | checkConfig
  | help
  deriving DecidableEq, Repr

namespace Scope

def name : Scope → String
  | .program => "sorted-numbers"
  | .serve => "serve"
  | .migrate => "migrate"
  | .checkConfig => "check-config"
  | .help => "help"

/-- The words that lead to it. -/
def path (s : Scope) : String :=
  if s = .program then s.name else Scope.program.name ++ " " ++ s.name

def commands : Scope → List Scope
  | .program => [.serve, .migrate, .checkConfig, .help]
  | _ => []

def command? (s : Scope) (word : String) : Option Scope := s.commands.find? (·.name = word)

/-- The options of a scope in the order in which they are explained. -/
def options : Scope → List Opt
  | .program => [.verbose, .logJson, .help, .version]
  | .serve => [.addr, .verbose, .logJson, .migrate, .help]
  | .migrate | .checkConfig => [.verbose, .logJson, .help]
  | .help => []

def long? (s : Scope) (name : String) : Option Opt := s.options.find? (·.long = name)

def short? (s : Scope) (c : Char) : Option Opt := s.options.find? (·.short? = some c)

end Scope

/-- What the program is asked to do. -/
inductive Command where
  | serve (addr : Option String) (migrate : Bool)
  | migrate
  | checkConfig
  deriving DecidableEq, Repr

structure Invocation where
  verbose : Bool := false
  logJson : Bool := false
  command : Command
  deriving DecidableEq, Repr

end NumberRegistry.CommandLine
