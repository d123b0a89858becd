/-
  NumberRegistry.Database.Row — rows of an answer, and the records in them.

  A field is read from the column of its name, the last one if there are several. The
  column must be of the field's own type, unless the value is missing: that is its own
  error, whatever the type.
-/
import NumberRegistry.Failure
import NumberRegistry.Store.Basic
import NumberRegistry.Text.Percent
import NumberRegistry.Text.Quoted

namespace NumberRegistry.Database

open Text

/-- An identifier of a row: a number, written as five groups of hexadecimal digits. -/
structure RowId where
  number : Nat
  deriving DecidableEq, Repr

namespace RowId

/-- The identifier that the `n`-th row gets. -/
def ofSerial (n : Nat) : RowId := ⟨0x40008000000000000000 + n⟩

theorem ofSerial_inj {m n : Nat} : ofSerial m = ofSerial n ↔ m = n := by
  simp [ofSerial]

/-- The `count` lowest hexadecimal digits of `n`. -/
def digits (n count : Nat) : List Char :=
  let shown := Nat.toDigits 16 n
  (List.replicate (count - shown.length) '0' ++ shown).reverse.take count |>.reverse

def text (i : RowId) : String :=
  let group (shift count : Nat) : String := String.ofList (digits (i.number >>> (4 * shift)) count)
  String.intercalate "-" [group 24 8, group 20 4, group 16 4, group 12 4, group 0 12]

/-- Reads the digits of an identifier, wherever its dashes stand. -/
def parse? (s : String) : Option RowId :=
  let ds := s.toList.filter (· ≠ '-')
  (ds.mapM Percent.hexValue?).map fun vs => ⟨vs.foldl (fun n v => 16 * n + v) 0⟩

end RowId

/-- A type of column that no field has. -/
inductive ForeignType where
  | int2
  | int8
  | text
  deriving DecidableEq, Repr

def ForeignType.name : ForeignType → String
  | .int2 => "INT2"
  | .int8 => "INT8"
  | .text => "TEXT"

/-- A value of a column's type, or none. -/
inductive Cell where
  | uuid (id : Option RowId)
  | int4 (value : Option Int32)
  | foreign (type : ForeignType) (missing : Bool)
  deriving DecidableEq, Repr

structure Column where
  name : String
  cell : Cell
  deriving DecidableEq, Repr

abbrev Row := List Column

namespace Cell

def typeName : Cell → String
  | .uuid _ => "UUID"
  | .int4 _ => "INT4"
  | .foreign type _ => type.name

def isMissing : Cell → Bool
  | .uuid id => id.isNone
  | .int4 value => value.isNone
  | .foreign _ missing => missing

/-- Why a cell does not hold a value of the type a field needs. -/
def mismatch (c : Cell) (needed neededName : String) : String :=
  if c.isMissing then "unexpected null; try decoding as an \x60Option\x60"
  else
    "mismatched types; Rust type \x60" ++ needed ++ "\x60 (as SQL type \x60" ++ neededName ++
      "\x60) is not compatible with SQL type \x60" ++ c.typeName ++ "\x60"

def id? : Cell → Except String RowId
  | .uuid (some id) => .ok id
  | c => .error (c.mismatch "uuid::Uuid" "UUID")

def int4? : Cell → Except String Int32
  | .int4 (some value) => .ok value
  | c => .error (c.mismatch "i32" "INT4")

end Cell

namespace Row

def cell (r : Row) (name : String) : Except Error Cell :=
  match r.reverse.find? (·.name = name) with
  | some c => .ok c.cell
  | none => .error (.columnNotFound name)

def field {α : Type} (r : Row) (name : String) (read : Cell → Except String α) : Except Error α := do
  let c ← r.cell name
  match read c with
  | .ok a => return a
  | .error reason => throw (.columnDecode (Quoted.encode name) (.other reason))

def record (r : Row) : Except Error (Store.Record RowId) := do
  return ⟨← r.field "id" Cell.id?, ← r.field "number" Cell.int4?⟩

end Row

end NumberRegistry.Database
