/-
  NumberRegistry.Proofs.Api.Exchange — what one step of an exchange can do.

  Every step is one of the moves of `Move`, with the record it puts into the store if it
  puts one there (`advance_move`); what holds of whole runs is shown move by move. The
  request, the arrival and the deadline of an exchange never change (`Move.request_eq`).
-/
import NumberRegistry.Api.Run
import NumberRegistry.Proofs.Store.Memory

namespace NumberRegistry.Api

open Http

/-! ## Requests to add a number -/

/-- A `POST` to the numbers, whatever its query says. -/
def IsAddition (r : Request) : Prop := r.method = "POST" ∧ r.target.path = "/numbers"

instance : DecidablePred IsAddition := fun r =>
  inferInstanceAs (Decidable (r.method = "POST" ∧ r.target.path = "/numbers"))

theorem actionOf_addition {r : Request} (h : IsAddition r) : actionOf r = .add r.target.query := by
  simp [actionOf, h.1, h.2, Route.ofPath?, Route.methods, Route.action]

/-- Two routes that have one path each. -/
theorem ofPath?_eq {path : String} {route : Route} (h : Route.ofPath? path = some route) :
    route = .numbers ∧ path = "/numbers" ∨ route = .ready ∧ path = "/ready" ∨ route ≠ .numbers ∧ route ≠ .ready := by
  unfold Route.ofPath? at h
  (repeat' split at h) <;> cases h <;> simp [*]

/-- A request sets off what its route does if the route has its method, and is turned
    down otherwise. -/
theorem actionOf_cases (r : Request) :
    (∃ route, Route.ofPath? r.target.path = some route ∧ r.method ∈ route.methods ∧
      actionOf r = route.action r.target.query) ∨
    ∃ response, actionOf r = .answer response ∧ response.status ∈ [404, 405] := by
  unfold actionOf
  split
  · exact Or.inr ⟨_, rfl, by simp [Response.bare]⟩
  · rename_i route hroute
    split
    · rename_i hm; exact Or.inl ⟨route, hroute, hm, rfl⟩
    · exact Or.inr ⟨_, rfl, by simp [Response.bare]⟩

theorem isAddition_of_add {r : Request} {query : Option String} (h : actionOf r = .add query) :
    IsAddition r ∧ query = r.target.query := by
  obtain ⟨route, hroute, hm, ha⟩ | ⟨_, ha, -⟩ := actionOf_cases r <;> rw [h] at ha
  · cases route <;> cases ha
    obtain ⟨-, hpath⟩ | ⟨hne, -⟩ | ⟨hne, -⟩ := ofPath?_eq hroute
    · exact ⟨⟨by simpa [Route.methods] using hm, hpath⟩, rfl⟩
    · cases hne
    · exact absurd rfl hne
  · cases ha

/-- No route answers by itself that the server has failed. -/
theorem status_of_answer {r : Request} {response : Response} (h : actionOf r = .answer response) :
    response.status ∈ [200, 303, 404, 405] := by
  obtain ⟨route, -, -, ha⟩ | ⟨_, ha, hstatus⟩ := actionOf_cases r <;> rw [h] at ha
  · cases route <;> simp only [Route.action, reduceCtorEq, Action.answer.injEq] at ha <;> subst ha
    all_goals try simp [Response.bare, jsonResponse, Response.withBody]
    unfold docsPage
    split <;> simp [Response.bare, Response.withBody]
  · cases ha
    simp only [List.mem_cons, List.not_mem_nil, or_false] at hstatus ⊢
    exact Or.inr (Or.inr hstatus)

theorem forMethod_addition {r : Request} (h : IsAddition r) (response : Response) :
    forMethod r response = response := by
  simp [forMethod, h.1]

@[simp] theorem status_forMethod (r : Request) (response : Response) :
    (forMethod r response).status = response.status := by
  unfold forMethod; split <;> rfl

/-! ## Moves -/

namespace Exchange

/-- The answer that the exchange has come to. -/
def answer? (e : Exchange) : Option Response :=
  match e.phase with
  | .answered _ response => some response
  | _ => none

/-- The record that the exchange's next step puts into the store, if it does. -/
def commit? (e : Exchange) (s : Service) : Option (Store.Record Nat) :=
  match e.phase with
  | .inserting value (some t) none => if t < e.due then (s.store.insert value).1.toOption else none
  | _ => none

/-- A store call that returns at `wake` is not over before the deadline. -/
def Late (e : Exchange) (wake : Store.Delay) : Prop := ∀ t, wake = some t → e.due ≤ t

/-- The steps of an exchange: the record that is put into the store, what becomes of the
    exchange, and what it leaves. -/
inductive Move (e : Exchange) (s : Service) :
    Option (Store.Record Nat) → Exchange → Service → Prop
  | rest {time : Nat} {response : Response} (hp : e.phase = .answered time response) :
      Move e s none e s
  | refuse (hp : e.phase = .arriving) (hd : e.deadline = 0) :
      Move e s none (e.timeOut e.arrival) s
  | reply {response : Response} (hp : e.phase = .arriving) (hd : e.deadline ≠ 0)
      (ha : actionOf e.request = .answer response) :
      Move e s none (e.answer e.arrival response) s
  | expose {response : Response} (hp : e.phase = .arriving) (hd : e.deadline ≠ 0)
      (ha : actionOf e.request = .exposition) (hs : response.status = 200 ∨ response.status = 404) :
      Move e s none (e.answer e.arrival response) s
  | callPing (hp : e.phase = .arriving) (hd : e.deadline ≠ 0) (ha : actionOf e.request = .ping) :
      Move e s none
        { e with phase := .pinging (s.script.takePing.1.delay.map (e.arrival + ·)) s.script.takePing.1.failure }
        { s with script := s.script.takePing.2 }
  | reject {query : Option String} {cause : QueryError} (hp : e.phase = .arriving)
      (hd : e.deadline ≠ 0) (ha : actionOf e.request = .add query) (hq : numberOf query = .error cause) :
      Move e s none (e.answer e.arrival (Error.invalidParams cause.message).response) (timed s)
  | callInsert {query : Option String} {n : Int32} (hp : e.phase = .arriving)
      (hd : e.deadline ≠ 0) (ha : actionOf e.request = .add query) (hq : numberOf query = .ok n) :
      Move e s none
        { e with phase := .inserting n (s.script.takeInsert.1.delay.map (e.arrival + ·)) s.script.takeInsert.1.failure }
        { s with script := s.script.takeInsert.2 }
  | insertFails {value : Int32} {t : Nat} {failure : Option Store.Error} {cause : Store.Error}
      (hp : e.phase = .inserting value (some t) failure) (ht : t < e.due)
      (hf : failure = some cause ∨ failure = none ∧ (s.store.insert value).1 = .error cause) :
      Move e s none (e.answer t (Error.insert cause).response)
        (timed { s with metrics := s.metrics.countStoreError "insert" })
  | commit {value : Int32} {t : Nat} {record : Store.Record Nat}
      (hp : e.phase = .inserting value (some t) none) (ht : t < e.due)
      (hr : (s.store.insert value).1 = .ok record) :
      Move e s (some record)
        { e with phase := .listing (s.script.takeList.1.delay.map (t + ·)) s.script.takeList.1.failure }
        { s with
          store := (s.store.insert value).2
          script := s.script.takeList.2
          metrics := s.metrics.countInserted }
  | insertLate {value : Int32} {wake : Store.Delay} {failure : Option Store.Error}
      (hp : e.phase = .inserting value wake failure) (hl : e.Late wake) :
      Move e s none (e.timeOut e.due) (timed s)
  | listFails {t : Nat} {failure : Option Store.Error} {cause : Store.Error}
      (hp : e.phase = .listing (some t) failure) (ht : t < e.due)
      (hf : failure = some cause ∨ failure = none ∧ s.store.listSorted = .error cause) :
      Move e s none (e.answer t (Error.list cause).response)
        (timed { s with metrics := s.metrics.countStoreError "list" })
  | list {t : Nat} {records : List (Store.Record Nat)} (hp : e.phase = .listing (some t) none)
      (ht : t < e.due) (hr : s.store.listSorted = .ok records) :
      Move e s none (e.answer t (jsonResponse 200 (numbersBody (records.map (·.value))))) (timed s)
  | listLate {wake : Store.Delay} {failure : Option Store.Error}
      (hp : e.phase = .listing wake failure) (hl : e.Late wake) :
      Move e s none (e.timeOut e.due) (timed s)
  | pingFails {t : Nat} {cause : Store.Error} (hp : e.phase = .pinging (some t) (some cause))
      (ht : t < e.due) :
      Move e s none (e.answer t (jsonResponse 503 (readyBody (.error cause)))) s
  | ping {t : Nat} (hp : e.phase = .pinging (some t) none) (ht : t < e.due) :
      Move e s none
        (e.answer t (jsonResponse (if s.store.ping.1.isOk then 200 else 503) (readyBody s.store.ping.1)))
        { s with store := s.store.ping.2 }
  | pingLate {wake : Store.Delay} {failure : Option Store.Error}
      (hp : e.phase = .pinging wake failure) (hl : e.Late wake) :
      Move e s none (e.timeOut e.due) s

theorem start_move (e : Exchange) (s : Service) (hp : e.phase = .arriving) (hd : e.deadline ≠ 0) :
    Move e s none (e.start s).1 (e.start s).2 := by
  unfold start
  split
  · rename_i ha; exact .reply hp hd ha
  · rename_i ha
    split
    · exact .expose hp hd ha (Or.inl rfl)
    · exact .expose hp hd ha (Or.inr rfl)
  · rename_i ha; exact .callPing hp hd ha
  · rename_i ha
    split
    · rename_i hq; exact .reject hp hd ha hq
    · rename_i hq; exact .callInsert hp hd ha hq

theorem insert_move (e : Exchange) (s : Service) {value : Int32} {t : Nat} {failure : Option Store.Error}
    (hp : e.phase = .inserting value (some t) failure) (ht : t < e.due) :
    Move e s (e.commit? s) (e.insert t value failure s).1 (e.insert t value failure s).2 := by
  cases failure with
  | some cause =>
    simp only [commit?, hp, Exchange.insert, insertFailed]
    exact .insertFails hp ht (Or.inl rfl)
  | none =>
    simp only [commit?, hp, ht, if_true, Exchange.insert]
    split
    · rename_i cause store hi
      have hc : (s.store.insert value).1 = .error cause := by rw [hi]
      rw [hc, Store.Memory.insert_error hi]
      exact .insertFails hp ht (Or.inr ⟨rfl, hc⟩)
    · rename_i record store hi
      have hc : (s.store.insert value).1 = .ok record := by rw [hi]
      have hs : store = (s.store.insert value).2 := by rw [hi]
      rw [hc, hs]
      exact .commit hp ht hc

theorem list_move (e : Exchange) (s : Service) {t : Nat} {failure : Option Store.Error}
    (hp : e.phase = .listing (some t) failure) (ht : t < e.due) :
    Move e s none (e.list t failure s).1 (e.list t failure s).2 := by
  cases failure with
  | some cause => exact .listFails hp ht (Or.inl rfl)
  | none =>
    simp only [Exchange.list]
    split
    · rename_i hl; exact .listFails hp ht (Or.inr ⟨rfl, hl⟩)
    · rename_i hl; exact .list hp ht hl

theorem late_none (e : Exchange) : e.Late none := by intro t ht; cases ht

theorem late_of_not_lt {e : Exchange} {t : Nat} (h : ¬ t < e.due) : e.Late (some t) := by
  intro u hu; cases hu; omega

/-- Every step of an exchange is a move. -/
theorem advance_move (e : Exchange) (s : Service) :
    Move e s (e.commit? s) (e.advance s).1 (e.advance s).2 := by
  cases hp : e.phase with
  | arriving =>
    simp only [commit?, advance, hp]
    split
    · rename_i hd; exact .refuse hp hd
    · rename_i hd; exact start_move e s hp hd
  | inserting value wake failure =>
    cases wake with
    | none =>
      simp only [commit?, advance, hp]
      exact .insertLate hp (late_none e)
    | some t =>
      by_cases ht : t < e.due
      · simpa only [advance, hp, ht, if_true] using insert_move e s hp ht
      · have hc : e.commit? s = none := by
          cases failure <;> simp [commit?, hp, ht]
        simp only [hc, advance, hp, ht, if_false]
        exact .insertLate hp (late_of_not_lt ht)
  | listing wake failure =>
    simp only [commit?, advance, hp]
    cases wake with
    | none => exact .listLate hp (late_none e)
    | some t =>
      by_cases ht : t < e.due
      · simpa only [ht, if_true] using list_move e s hp ht
      · simp only [ht, if_false]
        exact .listLate hp (late_of_not_lt ht)
  | pinging wake failure =>
    simp only [commit?, advance, hp]
    cases wake with
    | none => exact .pingLate hp (late_none e)
    | some t =>
      by_cases ht : t < e.due
      · simp only [ht, if_true]
        cases failure with
        | some cause => exact .pingFails hp ht
        | none => exact .ping hp ht
      · simp only [ht, if_false]
        exact .pingLate hp (late_of_not_lt ht)
  | answered time response =>
    simp only [commit?, advance, hp]
    exact .rest hp

theorem Move.request_eq {e e' : Exchange} {s s' : Service} {c : Option (Store.Record Nat)}
    (h : Move e s c e' s') : e'.request = e.request ∧ e'.arrival = e.arrival ∧ e'.deadline = e.deadline := by
  cases h <;> exact ⟨rfl, rfl, rfl⟩

end Exchange

end NumberRegistry.Api
