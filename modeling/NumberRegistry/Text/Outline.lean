/-
  NumberRegistry.Text.Outline — a value as a term, on one line or with a line per field.
-/
import NumberRegistry.Text.Decimal

namespace NumberRegistry.Text

inductive Outline where
  | atom (text : String)
  /-- A name and its fields; `more` tells that there are others that are not shown. -/
  | record (name : String) (fields : List (String × Outline)) (more : Bool)

namespace Outline

mutual

def line : Outline → String
  | .atom text => text
  | .record name fields more =>
    name ++ " \x7b " ++ lineFields fields ++ (if more then ", .. \x7d" else " \x7d")

def lineFields : List (String × Outline) → String
  | [] => ""
  | [(k, v)] => k ++ ": " ++ v.line
  | (k, v) :: f :: fs => k ++ ": " ++ v.line ++ ", " ++ lineFields (f :: fs)

end

mutual

/-- The lines of a term behind its first, which stands after `lead`. -/
def lines (indent lead : String) : Outline → List String
  | .atom text => [lead ++ text]
  | .record name fields more =>
    (lead ++ name ++ " \x7b") :: linesFields (indent ++ "    ") fields ++
      (if more then [indent ++ "    .."] else []) ++ [indent ++ "\x7d"]

def linesFields (indent : String) : List (String × Outline) → List String
  | [] => []
  | (k, v) :: fs => close (lines indent (indent ++ k ++ ": ") v) ++ linesFields indent fs

/-- Puts a comma behind the last line. -/
def close : List String → List String
  | [] => []
  | [l] => [l ++ ","]
  | l :: m :: ms => l :: close (m :: ms)

end

def page (o : Outline) : String := "\n".intercalate (lines "" "" o)

end Outline

end NumberRegistry.Text
