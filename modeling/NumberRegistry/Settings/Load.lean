/-
  NumberRegistry.Settings.Load — settings from the variables of an environment.

  The pairs are read in their order. A field may be set once; a second variable for it is
  refused before its value is looked at. Variables that set no field are ignored.
-/
import NumberRegistry.Settings.Basic

namespace NumberRegistry.Settings

open Text

def readNumber {α : Type} (parse : List Char → Except Decimal.ParseError α) (key value : String) :
    Except EnvironmentError α :=
  (parse value.toList).mapError (.badNumber · value key)

/-- Sets one field from the text of a variable. -/
def set (s : Settings) (key value : String) : Field → Except EnvironmentError Settings
  | .postgresDsn => .ok { s with postgresDsn := some value }
  | .poolMaxConnections =>
    (readNumber Decimal.parseUInt32 key value).map ({ s with poolMaxConnections := · })
  | .poolMinConnections =>
    (readNumber Decimal.parseUInt32 key value).map ({ s with poolMinConnections := · })
  | .poolMaxLifetimeSecs =>
    (readNumber Decimal.parseUInt64 key value).map ({ s with poolMaxLifetimeSecs := · })
  | .poolMaxIdleSecs =>
    (readNumber Decimal.parseUInt64 key value).map ({ s with poolMaxIdleSecs := · })
  | .poolHealthCheckSecs =>
    (readNumber Decimal.parseUInt64 key value).map ({ s with poolHealthCheckSecs := · })
  | .poolAcquireTimeoutSecs =>
    (readNumber Decimal.parseUInt64 key value).map ({ s with poolAcquireTimeoutSecs := · })
  | .serverAddr => .ok { s with serverAddr := value }
  | .requestTimeoutSecs =>
    (readNumber Decimal.parseUInt64 key value).map ({ s with requestTimeoutSecs := · })
  | .shutdownTimeoutSecs =>
    (readNumber Decimal.parseUInt64 key value).map ({ s with shutdownTimeoutSecs := · })
  | .logLevel => .ok { s with logLevel := value }

/-- Reads the pairs that follow; `seen` are the fields already set. -/
def loadFrom (seen : List Field) (s : Settings) :
    List (String × String) → Except EnvironmentError Settings
  | [] => .ok s
  | (key, value) :: rest =>
    match Field.ofVariable? key with
    | none => loadFrom seen s rest
    | some f =>
      if f ∈ seen then .error (.duplicate f)
      else
        match s.set key value f with
        | .error e => .error e
        | .ok s => loadFrom (f :: seen) s rest

def ofPairs (pairs : List (String × String)) : Except Error Settings :=
  (loadFrom [] {} pairs).mapError .environment

end NumberRegistry.Settings
