/-
  NumberRegistry.Proofs.Api.Completion — a run under the clock answers every request.

  Under the clock exchanges take their steps in one of the orders they could take them in
  (`finish_steps`), so what holds for every order holds there too. Each step that an
  exchange takes brings it closer to its answer (`Move.rank_lt`), and the clock stops
  only when nothing is left to be answered (`finish_answered`).
-/
import NumberRegistry.Proofs.Api.Exchange

namespace NumberRegistry.Api

namespace Exchange

theorem nextTime_eq_none {e : Exchange} : e.nextTime = none ↔ e.answer?.isSome := by
  cases hp : e.phase <;> simp [nextTime, answer?, hp]

theorem answered_of_rank {e : Exchange} (h : e.rank = 0) : e.answer?.isSome := by
  unfold rank at h
  split at h <;> simp_all [answer?]

/-- Whatever an exchange does, it is closer to its answer then. -/
theorem Move.rank_lt {e e' : Exchange} {s s' : Service} {c : Option (Store.Record Nat)}
    (h : Move e s c e' s') (hn : ¬ e.answer?.isSome) : e'.rank < e.rank := by
  cases h with
  | rest hp => simp [answer?, hp] at hn
  | refuse hp _ | reply hp _ _ | expose hp _ _ _ | reject hp _ _ _ => simp [rank, hp, answer, timeOut]
  | callPing hp _ _ | callInsert hp _ _ _ | commit hp _ _ => simp [rank, hp]
  | insertFails hp _ _ | insertLate hp _ | listFails hp _ _ | list hp _ _ | listLate hp _ =>
    simp [rank, hp, answer, timeOut]
  | pingFails hp _ | ping hp _ | pingLate hp _ => simp [rank, hp, answer, timeOut]

end Exchange

namespace Run

/-- The exchange that goes on first is one of those that still go on. -/
theorem earliest_some {i j t : Nat} {es : List Exchange} (h : earliest i es = some (j, t)) :
    ∃ k e, j = i + k ∧ es[k]? = some e ∧ e.nextTime = some t := by
  induction es generalizing i j t with
  | nil => simp [earliest] at h
  | cons e es ih =>
    simp only [earliest] at h
    split at h
    · obtain ⟨k, x, hj, hx, ht⟩ := ih h
      exact ⟨k + 1, x, by omega, by simpa using hx, ht⟩
    · rename_i ht _
      cases h
      exact ⟨0, e, rfl, rfl, ht⟩
    · rename_i ht hrest
      split at h
      · cases h; exact ⟨0, e, rfl, rfl, ht⟩
      · cases h
        obtain ⟨k, x, hj, hx, hu⟩ := ih hrest
        exact ⟨k + 1, x, by omega, by simpa using hx, hu⟩

/-- None goes on first only if all are answered. -/
theorem earliest_none {i : Nat} {es : List Exchange} (h : earliest i es = none) :
    ∀ e ∈ es, e.answer?.isSome := by
  induction es generalizing i with
  | nil => simp
  | cons e es ih =>
    simp only [earliest] at h
    split at h
    · rename_i ht
      intro x hx
      rcases List.mem_cons.mp hx with rfl | hx
      · exact Exchange.nextTime_eq_none.mp ht
      · exact ih h x hx
    · cases h
    · split at h <;> cases h

theorem finishWithin_steps (n : Nat) (r : Run) : ∃ schedule, finishWithin n r = r.steps schedule := by
  induction n generalizing r with
  | zero => exact ⟨[], rfl⟩
  | succ n ih =>
    simp only [finishWithin]
    split
    · exact ⟨[], rfl⟩
    · rename_i i _ _
      obtain ⟨schedule, hs⟩ := ih (r.step i)
      exact ⟨i :: schedule, hs⟩

/-- Under the clock exchanges take steps in one of the possible orders. -/
theorem finish_steps (r : Run) : ∃ schedule, r.finish = r.steps schedule := finishWithin_steps _ r

theorem rank_le {r : Run} {e : Exchange} (h : e ∈ r.exchanges) : e.rank ≤ r.rank := by
  obtain ⟨_, es⟩ := r
  induction es with
  | nil => cases h
  | cons x es ih =>
    simp only [rank, List.foldr_cons] at ih ⊢
    rcases List.mem_cons.mp h with rfl | h
    · omega
    · have := ih h; omega

theorem foldr_rank_set {es : List Exchange} {i : Nat} {e : Exchange} (e' : Exchange) (he : es[i]? = some e) :
    (es.set i e').foldr (fun e n => e.rank + n) 0 + e.rank =
      es.foldr (fun e n => e.rank + n) 0 + e'.rank := by
  induction es generalizing i with
  | nil => simp at he
  | cons x es ih =>
    cases i with
    | zero => simp only [List.getElem?_cons_zero, Option.some.injEq] at he; subst he; simp; omega
    | succ i => have := ih (i := i) (by simpa using he); simp only [List.set_cons_succ, List.foldr_cons]; omega

theorem finishWithin_answered {n : Nat} {r : Run} (h : r.rank ≤ n) :
    ∀ e ∈ (finishWithin n r).exchanges, e.answer?.isSome := by
  induction n generalizing r with
  | zero =>
    intro e he
    have := rank_le he
    exact Exchange.answered_of_rank (by simp only [finishWithin] at this; omega)
  | succ n ih =>
    simp only [finishWithin]
    split
    · rename_i hnone; exact earliest_none hnone
    · rename_i j t hfirst
      refine ih ?_
      obtain ⟨i, e, rfl, he, ht⟩ := earliest_some hfirst
      have hopen : ¬ e.answer?.isSome := fun ha => by rw [Exchange.nextTime_eq_none.mpr ha] at ht; cases ht
      have hlt := (Exchange.advance_move e r.service).rank_lt hopen
      have hset := foldr_rank_set (e.advance r.service).1 he
      simp only [step, Nat.zero_add, he, rank] at hset h ⊢
      omega

/-- Under the clock every request is answered. -/
theorem finish_answered (r : Run) : ∀ e ∈ r.finish.exchanges, e.answer?.isSome :=
  finishWithin_answered (Nat.le_refl _)

end Run

end NumberRegistry.Api
