/-
  NumberRegistry.Proofs.Client.Body — the client reads what the service writes.

  A body of numbers is read as those numbers in their order (`numbers?_numbersBody`), and
  an error body as its message, whatever characters that holds (`errorMessage_errorBody`).
-/
import NumberRegistry.Api.Error
import NumberRegistry.Client.Body
import NumberRegistry.Proofs.Json.Reader
import NumberRegistry.Proofs.Text.Parts
import NumberRegistry.Proofs.Text.Utf8

namespace NumberRegistry.Client

open Json Text

theorem plain_numbersBody (values : List Int32) : (Api.numbersBody values).Plain := by
  refine Value.plain_ofMembers (List.forall_mem_singleton.mpr (.array fun v hv => ?_))
  obtain ⟨n, -, rfl⟩ := List.mem_map.mp hv
  exact .integer n.toInt

theorem plain_errorBody (message : String) : (Api.errorBody message).Plain :=
  Value.plain_ofMembers (List.forall_mem_singleton.mpr (.text message))

theorem field?_ofMembers (name : String) (v : Value) : field? name (.ofMembers [(name, v)]) = some v := by
  simp [field?, Value.ofMembers, member?]

theorem int32?_integer (n : Int32) : int32? (.integer n) = some n := by
  simp [int32?, Value.integer, Decimal.ofInt_ne_minusZero, Decimal.parseInt32_ofInt, Except.toOption]

theorem mapM_int32? (values : List Int32) : (values.map Value.integer).mapM int32? = some values :=
  mapM_map_of_forall fun n _ => int32?_integer n

theorem numbers?_numbersBody (values : List Int32) :
    numbers? (Utf8.encode (Api.numbersBody values).print.toList) = some values := by
  simp only [numbers?, Utf8.decode?_encode, Except.toOption, Option.bind_eq_bind, Option.bind_some,
    String.ofList_toList, parse?_print (plain_numbersBody values)]
  rw [Api.numbersBody, field?_ofMembers, Option.bind_some]
  exact mapM_int32? values

theorem errorMessage_errorBody (message : String) :
    errorMessage (Utf8.encode (Api.errorBody message).print.toList) = message := by
  simp only [errorMessage, Utf8.decodeLossy_encode, String.ofList_toList, parse?_print (plain_errorBody message),
    Option.bind_some]
  rw [Api.errorBody, field?_ofMembers]
  rfl

end NumberRegistry.Client
