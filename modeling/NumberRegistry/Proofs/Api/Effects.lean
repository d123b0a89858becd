/-
  NumberRegistry.Proofs.Api.Effects — what one request leaves behind.

  A request comes to a service, of whatever state, and is answered before the next.
  Nothing is assumed of it: any method and target, known to the service or not.

  Proved:
  - `Effect`: at each phase, what the request has done to the store and to the counters
    so far. Each move keeps it (`Move.effect`), and so does every order of steps.
  - `only_additions_write`: the request is answered, and of all requests only one to add
    a number, with a query that is accepted, appends a record, that of the number; only
    one for readiness pings, once. One that is turned down (400, 404, 405) changes neither
    the store nor the counters of what was done to it.
-/
import NumberRegistry.Proofs.Api.Commits
import NumberRegistry.Proofs.Api.Completion

namespace NumberRegistry.Api

open Http

/-- A request whether the store is in reach. -/
def IsReadiness (r : Request) : Prop := (r.method = "GET" ∨ r.method = "HEAD") ∧ r.target.path = "/ready"

theorem isReadiness_of_ping {r : Request} (h : actionOf r = .ping) : IsReadiness r := by
  obtain ⟨route, hroute, hm, ha⟩ | ⟨_, ha, -⟩ := actionOf_cases r <;> rw [h] at ha
  · cases route <;> cases ha
    obtain ⟨hne, -⟩ | ⟨-, hpath⟩ | ⟨-, hne⟩ := ofPath?_eq hroute
    · cases hne
    · exact ⟨by simpa [Route.methods] using hm, hpath⟩
    · exact absurd rfl hne
  · cases ha

/-- The store, and what was counted of its calls, are as they were. -/
structure Untouched (s₀ s : Service) : Prop where
  store : s.store = s₀.store
  inserted : s.metrics.inserted = s₀.metrics.inserted
  storeErrors : s.metrics.storeErrors = s₀.metrics.storeErrors

/-- The store has one record more, that of the number the request asks to add. -/
structure Added (s₀ : Service) (r : Request) (s : Service) : Prop where
  addition : IsAddition r
  record : ∃ n id, numberOf r.target.query = .ok n ∧ s.store.records = s₀.store.records ++ [⟨id, n⟩]
  pings : s.store.pings = s₀.store.pings

/-- What a request has left that is answered with this status. -/
inductive Left (s₀ : Service) (r : Request) (status : Nat) (s : Service) : Prop
  | untouched (h : Untouched s₀ s)
  | failed (hs : s.store = s₀.store) (ht : status = 500)
  | added (h : Added s₀ r s) (ht : status ∈ [200, 408, 500])
  | pinged (hp : IsReadiness r) (hs : s.store = s₀.store.ping.2) (ht : status ∈ [200, 503])

/-- What a request has done to the service so far. -/
def Effect (s₀ : Service) (e : Exchange) (s : Service) : Prop :=
  match e.phase with
  | .arriving => Untouched s₀ s
  | .inserting value _ _ =>
    Untouched s₀ s ∧ IsAddition e.request ∧ numberOf e.request.target.query = .ok value
  | .listing _ _ => Added s₀ e.request s
  | .pinging _ _ => Untouched s₀ s ∧ IsReadiness e.request
  | .answered _ response => Left s₀ e.request response.status s

theorem effect_answer {s₀ s : Service} {e : Exchange} {time : Nat} {response : Response}
    (h : Left s₀ e.request response.status s) : Effect s₀ (e.answer time response) s := by
  simpa [Effect, Exchange.answer] using h

theorem effect_timeOut {s₀ s : Service} {e : Exchange} {time : Nat} (h : Left s₀ e.request 408 s) :
    Effect s₀ (e.timeOut time) s := effect_answer h

theorem Untouched.timed {s₀ s : Service} (h : Untouched s₀ s) : Untouched s₀ (Exchange.timed s) :=
  ⟨h.store, h.inserted, h.storeErrors⟩

theorem Added.timed {s₀ s : Service} {r : Request} (h : Added s₀ r s) : Added s₀ r (Exchange.timed s) :=
  ⟨h.addition, h.record, h.pings⟩

/-- A move does to the service what the phase it leads to says. -/
theorem Exchange.Move.effect {e e' : Exchange} {s s' : Service} {c : Option (Store.Record Nat)}
    (h : Exchange.Move e s c e' s') {s₀ : Service} (hs : Effect s₀ e s) : Effect s₀ e' s' := by
  cases h with
  | rest _ => exact hs
  | refuse hp _ =>
    simp only [Effect, hp] at hs
    exact effect_timeOut (.untouched hs)
  | reply hp _ _ | expose hp _ _ _ =>
    simp only [Effect, hp] at hs
    exact effect_answer (.untouched hs)
  | callPing hp _ ha =>
    simp only [Effect, hp] at hs
    exact ⟨⟨hs.store, hs.inserted, hs.storeErrors⟩, isReadiness_of_ping ha⟩
  | reject hp _ _ _ =>
    simp only [Effect, hp] at hs
    exact effect_answer (.untouched hs.timed)
  | callInsert hp _ ha hq =>
    simp only [Effect, hp] at hs
    obtain ⟨hadd, rfl⟩ := isAddition_of_add ha
    exact ⟨⟨hs.store, hs.inserted, hs.storeErrors⟩, hadd, hq⟩
  | insertFails hp _ _ =>
    simp only [Effect, hp] at hs
    exact effect_answer (.failed hs.1.store rfl)
  | commit hp _ hr =>
    simp only [Effect, hp] at hs
    obtain ⟨hrecord, hrecords⟩ := Store.Memory.insert_ok hr
    refine ⟨hs.2.1, ⟨_, s.store.nextId, hs.2.2, ?_⟩, by simp [hs.1.store]⟩
    rw [← hrecord, ← hs.1.store]
    exact hrecords
  | insertLate hp _ =>
    simp only [Effect, hp] at hs
    exact effect_timeOut (.untouched hs.1.timed)
  | listFails hp _ _ =>
    simp only [Effect, hp] at hs
    exact effect_answer (.added ⟨hs.addition, hs.record, hs.pings⟩ (by simp [Error.response, Error.status]))
  | list hp _ _ =>
    simp only [Effect, hp] at hs
    exact effect_answer (.added hs.timed (by simp))
  | listLate hp _ =>
    simp only [Effect, hp] at hs
    exact effect_timeOut (.added hs.timed (by simp))
  | pingFails hp _ =>
    simp only [Effect, hp] at hs
    exact effect_answer (.untouched hs.1)
  | ping hp _ =>
    simp only [Effect, hp] at hs
    refine effect_answer (.pinged hs.2 (by rw [hs.1.store]) ?_)
    split <;> simp
  | pingLate hp _ =>
    simp only [Effect, hp] at hs
    exact effect_timeOut (.untouched hs.1)

/-- The run of a single request, and what the request has done. -/
def Alone (s₀ : Service) (request : Request) (r : Run) : Prop :=
  ∃ e, r.exchanges = [e] ∧ e.request = request ∧ Effect s₀ e r.service

theorem alone_opening (s : Service) (a : Arrival) : Alone s a.request (Run.opening s [a]) :=
  ⟨a.exchange, rfl, rfl, ⟨rfl, rfl, rfl⟩⟩

theorem Alone.step {s₀ : Service} {request : Request} {r : Run} (h : Alone s₀ request r) (i : Nat) :
    Alone s₀ request (r.step i) := by
  obtain ⟨-, hstep, -⟩ | ⟨e, e', s', c, he, hm, hstep, -⟩ := r.step_cases i
  · rwa [hstep]
  obtain ⟨x, hx, hreq, heff⟩ := h
  rw [hx, List.getElem?_singleton] at he
  split at he
  · rename_i hi
    subst hi
    cases he
    exact ⟨e', by simp [hstep, hx], hm.request_eq.1.trans hreq, by rw [hstep]; exact hm.effect heff⟩
  · cases he

theorem Alone.steps {s₀ : Service} {request : Request} :
    ∀ (schedule : List Nat) {r : Run}, Alone s₀ request r → Alone s₀ request (r.steps schedule) := by
  intro schedule
  induction schedule with
  | nil => intro r h; exact h
  | cons i rest ih => intro r h; exact ih (h.step i)

/-- The run of a single request ends with its answer. -/
theorem alone_finish (s : Service) (a : Arrival) :
    ∃ response, ((Run.opening s [a]).finish).responses = [response] ∧
      Left s a.request response.status ((Run.opening s [a]).finish).service := by
  obtain ⟨schedule, hs⟩ := (Run.opening s [a]).finish_steps
  obtain ⟨e, he, hreq, heff⟩ := (alone_opening s a).steps schedule
  rw [← hs] at he heff
  have hans := Run.finish_answered (Run.opening s [a]) e (by rw [he]; exact List.mem_singleton.mpr rfl)
  cases hp : e.phase with
  | answered time response =>
    simp only [Effect, hp, hreq] at heff
    exact ⟨response, by simp [Run.responses, he, hp], heff⟩
  | _ => simp [Exchange.answer?, hp] at hans

/-- Of all requests only one to add a number writes, and only with a query that is
    accepted; only one for readiness pings, once. A request that is turned down leaves
    the store as it was, and what was counted of its calls. -/
theorem only_additions_write (s : Service) (a : Arrival) :
    let r := (Run.opening s [a]).finish
    ∃ response, r.responses = [response] ∧
      (r.service.store.records = s.store.records ∨
        IsAddition a.request ∧ ∃ n id, numberOf a.request.target.query = .ok n ∧
          r.service.store.records = s.store.records ++ [⟨id, n⟩]) ∧
      (r.service.store.pings = s.store.pings ∨
        IsReadiness a.request ∧ r.service.store.pings = s.store.pings + 1) ∧
      (response.status ∈ [400, 404, 405] →
        r.service.store.records = s.store.records ∧ r.service.store.pings = s.store.pings ∧
          r.service.metrics.inserted = s.metrics.inserted ∧
          r.service.metrics.storeErrors = s.metrics.storeErrors) := by
  intro r
  obtain ⟨response, hr, hleft⟩ := alone_finish s a
  refine ⟨response, hr, ?_⟩
  change Left s a.request response.status r.service at hleft
  cases hleft with
  | untouched h =>
    exact ⟨Or.inl (by rw [h.store]), Or.inl (by rw [h.store]),
      fun _ => ⟨by rw [h.store], by rw [h.store], h.inserted, h.storeErrors⟩⟩
  | failed hs ht =>
    exact ⟨Or.inl (by rw [hs]), Or.inl (by rw [hs]), fun h => by simp [ht] at h⟩
  | added h ht =>
    refine ⟨Or.inr ⟨h.addition, h.record⟩, Or.inl h.pings, fun hc => ?_⟩
    exact absurd ht (by revert hc; simp; omega)
  | pinged hp hs ht =>
    refine ⟨Or.inl (by rw [hs]; rfl), Or.inr ⟨hp, by rw [hs]; rfl⟩, fun hc => ?_⟩
    exact absurd ht (by revert hc; simp; omega)

end NumberRegistry.Api
