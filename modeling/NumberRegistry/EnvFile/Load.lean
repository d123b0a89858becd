/-
  NumberRegistry.EnvFile.Load — adding a file's variables to an environment.

  A variable that is set already stays as it is. Reading stops without a word at the first
  entry that cannot be read; what came before it counts. A value may refer to variables
  of the environment and, where one is not set there, to earlier entries of the file.
-/
import NumberRegistry.EnvFile.Lines
import NumberRegistry.EnvFile.Value
import NumberRegistry.Settings.Load

namespace NumberRegistry

/-- Variables in the order they were set; a name is set once. -/
abbrev Environment := List (String × String)

namespace EnvFile

/-- What a name stands for inside the file; `earlier` are its entries, newest first. -/
def lookup (env : Environment) (earlier : List (String × String)) (name : String) : String :=
  ((env.lookup name).or (earlier.lookup name)).getD ""

def isSet (env : Environment) (name : String) : Bool := (env.lookup name).isSome

/-- Sets a variable that is not set yet. -/
def give (env : Environment) (name value : String) : Environment :=
  if isSet env name then env else env ++ [(name, value)]

def apply (env : Environment) (earlier : List (String × String)) :
    List (Option (List Char)) → Environment
  | [] => env
  | none :: _ => env
  | some line :: rest =>
    match Entry.parse (lookup env earlier) line with
    | .blank => apply env earlier rest
    | .unreadable => env
    | .assign name value =>
      apply (give env name value) ((name, value) :: earlier) rest

/-- The text of a file without its byte order mark. -/
def withoutMark (text : List Char) : List Char :=
  match text with
  | '\uFEFF' :: rest => rest
  | _ => text

def load (text : String) (env : Environment) : Environment :=
  apply env [] (entries [] .plain (splitLines (withoutMark text.toList)))

/-- The file that counts, of those in the working directory and in the ones above it,
    nearest first. -/
def nearest (files : List (Option String)) : Option String := files.findSome? id

/-- Loads the nearest file, if there is one. -/
def loadNearest (file : Option String) (env : Environment) : Environment :=
  file.elim env (load · env)

end EnvFile

/-- The settings of an environment and the nearest file, and the environment after it. -/
def Settings.load (file : Option String) (env : Environment) :
    Except Settings.Error Settings × Environment :=
  let env := EnvFile.loadNearest file env
  (Settings.ofPairs env, env)

end NumberRegistry
