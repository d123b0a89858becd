/-
  NumberRegistry.Store.Operation — a store called again and again.

  A call is one of the store's operations, or adds a number, which is two of them. Each
  has its answer, and leaves the store for the next.
-/
import NumberRegistry.Api.Add
import NumberRegistry.Store.Script

namespace NumberRegistry.Store

inductive Operation where
  | insert (value : Int32)
  | list
  | ping
  | add (value : Int32)
  deriving DecidableEq, Repr

/-- The kind of call that an operation makes first. -/
def Operation.kind : Operation → Kind
  | .insert _ | .add _ => .insert
  | .list => .list
  | .ping => .ping

inductive Answer (ι : Type) where
  | record (result : Except Error (Record ι))
  | records (result : Except Error (List (Record ι)))
  | pong (result : Except Error Unit)
  | numbers (result : Except Api.Error (List Int32))

variable {σ ι : Type} [NumberStore σ ι]

def perform (s : σ) : Operation → Answer ι × σ
  | .insert value =>
    let (result, s) := NumberStore.insert s value
    (.record result, s)
  | .list =>
    let (result, s) := NumberStore.listSorted s
    (.records result, s)
  | .ping =>
    let (result, s) := NumberStore.ping s
    (.pong result, s)
  | .add value =>
    let (result, s) := Api.storeAndList value s
    (.numbers result, s)

/-- Makes the calls in turn; gives their answers. -/
def performAll (s : σ) : List Operation → List (Answer ι) × σ
  | [] => ([], s)
  | operation :: rest =>
    let (answer, s) := perform s operation
    let (answers, s) := performAll s rest
    (answer :: answers, s)

end NumberRegistry.Store
