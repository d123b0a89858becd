/-
  NumberRegistry.CommandLine.Help — what the program says about itself.
-/
import NumberRegistry.CommandLine.Options

namespace NumberRegistry.CommandLine

def version : String := "0.1.0"

def Opt.about : Opt → String
  | .verbose => "Enable verbose logging"
  | .logJson => "Emit logs as JSON lines"
  | .addr => "Listener address, overrides SERVER_ADDR"
  | .migrate => "Apply pending migrations before serving"
  | .help => "Print help"
  | .version => "Print version"

namespace Scope

def about : Scope → String
  | .program => "Store integers in PostgreSQL and read them back in ascending order"
  | .serve => "Run the HTTP server (default)"
  | .migrate => "Apply pending migrations and exit"
  | .checkConfig => "Check configuration validity"
  | .help => "Print this message or the help of the given subcommand(s)"

/-- How a scope is used in general. -/
def usage : Scope → String
  | .program => Scope.program.path ++ " [OPTIONS] [COMMAND]"
  | .help => Scope.help.path ++ " [COMMAND]..."
  | s => s.path ++ " [OPTIONS]"

/-- How a scope is used with some options. -/
def usageWith (s : Scope) (options : List Opt) : String :=
  if options.isEmpty then s.usage
  else s.path ++ String.join (options.eraseDups.map fun o => " " ++ o.shown)

end Scope

/-- A section of terms and what they mean, the meanings in one column. -/
def table (title : String) (entries : List (String × String)) : String :=
  if entries.isEmpty then ""
  else
    let width := (entries.map (·.1.length)).foldl max 0
    let line (term meaning : String) : String :=
      "  " ++ term ++ String.ofList (List.replicate (width + 2 - term.length) ' ') ++ meaning ++ "\n"
    "\n" ++ title ++ ":\n" ++ String.join (entries.map fun (term, meaning) => line term meaning)

def Opt.term (o : Opt) : String :=
  (o.short?.elim "    " fun c => String.ofList ['-', c, ',', ' ']) ++ o.shown

def Scope.helpText (s : Scope) : String :=
  s.about ++ "\n\nUsage: " ++ s.usage ++ "\n" ++
    table "Commands" (s.commands.map fun c => (c.name, c.about)) ++
    table "Arguments" (if s = .help then
      [("[COMMAND]...", "Print help for the subcommand(s)")] else []) ++
    table "Options" (s.options.map fun o => (o.term, o.about))

def versionLine : String := Scope.program.name ++ " " ++ version ++ "\n"

end NumberRegistry.CommandLine
