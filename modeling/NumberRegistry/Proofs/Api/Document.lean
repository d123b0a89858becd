/-
  NumberRegistry.Proofs.Api.Document — what the served document says, and what is answered.

  The document lists for each operation the statuses of its answers and the shape of each
  body. The bodies that the handlers make have those shapes (`describes_numbers`,
  `describes_error`, `describes_health`, `describes_ready`), and a handler gives them the
  statuses that stand with them. The deadline is not the handlers': what it answers, 408
  without a body, is not in the document (`stalled_store_is_undocumented`). Besides it
  every answer to an operation of the document is in it (`answers_described`).
-/
import NumberRegistry.Proofs.Api.Effects
import NumberRegistry.Proofs.Client.Body

namespace NumberRegistry.Api

open Http Json Document

/-! ## Bodies -/

theorem plain_healthBody : healthBody.Plain :=
  Value.plain_ofMembers (List.forall_mem_singleton.mpr (.text "ok"))

theorem plain_readyBody (result : Except Store.Error Unit) : (readyBody result).Plain := by
  cases result with
  | ok _ => exact Value.plain_ofMembers (List.forall_mem_singleton.mpr (.bool true))
  | error e =>
    have hmessage := Value.Plain.text e.message
    exact Value.plain_ofMembers (List.forall_mem_cons.mpr ⟨.bool false, List.forall_mem_singleton.mpr hmessage⟩)

theorem admitsAll_integers (values : List Int32) : Schema.admitsAll .int32 (values.map Value.integer) := by
  induction values with
  | nil => rfl
  | cons n ns ih =>
    have hn : Schema.int32.admits (Value.integer n) := by
      rw [Value.integer, Schema.admits_int32, Text.Decimal.parseInt32_ofInt]
      rfl
    rw [List.map_cons, Schema.admitsAll_cons, hn, ih]
    rfl

theorem admits_numbers (values : List Int32) : numbersShape.admits (numbersBody values) := by
  have h := admitsAll_integers values
  simpa [Shape.admits, numbersShape, numbersBody, Value.ofMembers] using h

theorem admits_error (message : String) : errorShape.admits (errorBody message) := by
  simp [Shape.admits, errorShape, errorBody, Value.ofMembers]

theorem admits_ready (result : Except Store.Error Unit) : readyShape.admits (readyBody result) := by
  cases result <;> simp [Shape.admits, readyShape, readyBody, Value.ofMembers]

theorem describes_print {op : Operation} {reply : Reply} {status : Nat} {body : Value}
    (hreply : op.reply? status = some reply) (hplain : body.Plain) (h : reply.body.admits body) :
    op.describes status body.print := by
  rw [Operation.describes, hreply, parse?_print hplain]
  exact h

theorem describes_numbers (values : List Int32) : Document.addNumber.describes 200 (numbersBody values).print :=
  describes_print rfl (Client.plain_numbersBody values) (admits_numbers values)

theorem describes_error (message : String) {status : Nat} (h : status = 400 ∨ status = 500) :
    Document.addNumber.describes status (errorBody message).print := by
  obtain rfl | rfl := h <;> exact describes_print rfl (Client.plain_errorBody message) (admits_error message)

theorem describes_health : Document.health.describes 200 healthBody.print :=
  describes_print rfl plain_healthBody (by decide)

theorem describes_ready (result : Except Store.Error Unit) {status : Nat} (h : status = 200 ∨ status = 503) :
    Document.ready.describes status (readyBody result).print := by
  obtain rfl | rfl := h <;> exact describes_print rfl (plain_readyBody result) (admits_ready result)

/-! ## Requests to operations -/

/-- A request that an operation of the document is about. -/
def Document.Operation.Concerns (op : Operation) (r : Request) : Prop :=
  r.method.toList = op.method.toList.map Char.toUpper ∧ r.target.path = op.path

/-- What a request to an operation sets off. -/
inductive Asks (r : Request) : Operation → Prop
  | addNumber (h : IsAddition r) : Asks r Document.addNumber
  | health (hm : r.method = "GET") (ha : actionOf r = .answer (jsonResponse 200 healthBody)) : Asks r Document.health
  | ready (hm : r.method = "GET") (ha : actionOf r = .ping) : Asks r Document.ready

theorem asks_of_concerns {op : Operation} {r : Request} (hop : op ∈ operations) (h : op.Concerns r) : Asks r op := by
  obtain ⟨hm, hp⟩ := h
  simp only [operations, List.mem_cons, List.not_mem_nil, or_false] at hop
  obtain rfl | rfl | rfl := hop
  · exact .addNumber ⟨String.toList_inj.mp hm, hp⟩
  · have hget : r.method = "GET" := String.toList_inj.mp hm
    have hpath : r.target.path = "/health" := hp
    exact .health hget (by simp [actionOf, hget, hpath, Route.ofPath?, Route.methods, Route.action])
  · have hget : r.method = "GET" := String.toList_inj.mp hm
    have hpath : r.target.path = "/ready" := hp
    exact .ready hget (by simp [actionOf, hget, hpath, Route.ofPath?, Route.methods, Route.action])

section
variable {r : Request} {op : Operation}

theorem Asks.eq_addNumber (h : Asks r op) (hadd : IsAddition r) : op = Document.addNumber := by
  cases h with
  | addNumber _ => rfl
  | health _ ha | ready _ ha => rw [actionOf_addition hadd] at ha; cases ha

theorem Asks.eq_ready (h : Asks r op) (hping : actionOf r = .ping) : op = Document.ready := by
  cases h with
  | addNumber hadd => rw [actionOf_addition hadd] at hping; cases hping
  | health _ ha => rw [ha] at hping; cases hping
  | ready _ _ => rfl

/-- Only the request for health is answered by its route alone. -/
theorem Asks.eq_health (h : Asks r op) {response : Response} (hanswer : actionOf r = .answer response) :
    op = Document.health ∧ response = jsonResponse 200 healthBody := by
  cases h with
  | addNumber hadd => rw [actionOf_addition hadd] at hanswer; cases hanswer
  | health _ ha => rw [ha] at hanswer; cases hanswer; exact ⟨rfl, rfl⟩
  | ready _ ha => rw [ha] at hanswer; cases hanswer

theorem Asks.not_exposition (h : Asks r op) : actionOf r ≠ .exposition := by
  intro hexpose
  cases h with
  | addNumber hadd => rw [actionOf_addition hadd] at hexpose; cases hexpose
  | health _ ha | ready _ ha => rw [ha] at hexpose; cases hexpose

/-- No operation is asked for its answer without the body. -/
theorem Asks.forMethod (h : Asks r op) (response : Response) : forMethod r response = response := by
  have hm : r.method ≠ "HEAD" := by
    cases h with
    | addNumber hadd => rw [hadd.1]; decide
    | health hget _ | ready hget _ => rw [hget]; decide
  exact if_neg hm

end

/-! ## Answers -/

/-- The answer of the deadline, to an operation that waits for the store. -/
structure TimedOut (e : Exchange) (op : Operation) (time : Nat) (response : Response) : Prop where
  waits : op ≠ Document.health
  due : time = e.due
  status : response.status = 408
  body : response.body = ""

/-- How an exchange stands to the document: which operation it can be about, and once it is
    answered that the document has its answer, or the deadline gave it. -/
def Documented (e : Exchange) : Prop :=
  match e.phase with
  | .arriving => True
  | .inserting _ _ _ => IsAddition e.request
  | .listing _ _ => IsAddition e.request
  | .pinging _ _ => actionOf e.request = .ping
  | .answered time response => ∀ op, Asks e.request op →
      op.describes response.status response.body ∨ TimedOut e op time response

variable {e e' : Exchange} {s s' : Service}

theorem documented_answer {time : Nat} {response : Response}
    (h : ∀ op, Asks e.request op → op.describes response.status response.body) :
    Documented (e.answer time response) := by
  intro op (hop : Asks e.request op)
  rw [hop.forMethod]
  exact Or.inl (h op hop)

theorem documented_error (hadd : IsAddition e.request) {time : Nat} (cause : Error) :
    Documented (e.answer time cause.response) := by
  refine documented_answer fun op hop => ?_
  rw [hop.eq_addNumber hadd]
  exact describes_error cause.message (by cases cause <;> simp [Error.response, Error.status])

theorem documented_timeOut (h : ∀ op, Asks e.request op → op ≠ Document.health) :
    Documented (e.timeOut e.due) := by
  intro op (hop : Asks e.request op)
  rw [hop.forMethod]
  exact Or.inr ⟨h op hop, rfl, rfl, rfl⟩

theorem ne_health_of_addition (hadd : IsAddition e.request) (op : Operation) (hop : Asks e.request op) :
    op ≠ Document.health := by
  rw [hop.eq_addNumber hadd]
  decide

theorem ne_health_of_ping (hping : actionOf e.request = .ping) (op : Operation) (hop : Asks e.request op) :
    op ≠ Document.health := by
  rw [hop.eq_ready hping]
  decide

theorem documented_ready (hping : actionOf e.request = .ping) {time status : Nat} (result : Except Store.Error Unit)
    (hstatus : status = 200 ∨ status = 503) :
    Documented (e.answer time (jsonResponse status (readyBody result))) := by
  refine documented_answer fun op hop => ?_
  rw [hop.eq_ready hping]
  exact describes_ready result hstatus

/-- Every step that an exchange takes before its deadline or at it is in the document. -/
theorem Exchange.Move.documented {c : Option (Store.Record Nat)} (h : Exchange.Move e s c e' s') (hd : e.deadline ≠ 0)
    (hs : Documented e) : Documented e' := by
  cases h with
  | rest _ => exact hs
  | refuse _ h0 => exact absurd h0 hd
  | reply _ _ ha =>
    refine documented_answer fun op hop => ?_
    obtain ⟨rfl, rfl⟩ := hop.eq_health ha
    exact describes_health
  | expose _ _ ha _ => exact documented_answer fun op hop => absurd ha hop.not_exposition
  | callPing _ _ ha => exact ha
  | reject _ _ ha _ => exact documented_error (isAddition_of_add ha).1 _
  | callInsert _ _ ha _ => exact (isAddition_of_add ha).1
  | insertFails hp _ _ =>
    simp only [Documented, hp] at hs
    exact documented_error hs _
  | commit hp _ _ =>
    simp only [Documented, hp] at hs
    exact hs
  | insertLate hp _ | listLate hp _ =>
    simp only [Documented, hp] at hs
    exact documented_timeOut (ne_health_of_addition hs)
  | listFails hp _ _ =>
    simp only [Documented, hp] at hs
    exact documented_error hs _
  | list hp _ _ =>
    simp only [Documented, hp] at hs
    refine documented_answer fun op hop => ?_
    rw [hop.eq_addNumber hs]
    exact describes_numbers _
  | pingFails hp _ =>
    simp only [Documented, hp] at hs
    exact documented_ready hs _ (Or.inr rfl)
  | ping hp _ =>
    simp only [Documented, hp] at hs
    refine documented_ready hs _ ?_
    split <;> simp
  | pingLate hp _ =>
    simp only [Documented, hp] at hs
    exact documented_timeOut (ne_health_of_ping hs)

/-- All exchanges of a run have a deadline, and stand to the document as they should. -/
def Run.Documented (r : Run) : Prop := ∀ e ∈ r.exchanges, e.deadline ≠ 0 ∧ Api.Documented e

theorem Run.Documented.step {r : Run} (h : r.Documented) (i : Nat) : (r.step i).Documented := by
  obtain ⟨-, hstep, -⟩ | ⟨e, e', s', c, he, hm, hstep, -⟩ := r.step_cases i
  · rwa [hstep]
  rw [hstep]
  intro x hx
  obtain hx | rfl := List.mem_or_eq_of_mem_set hx
  · exact h x hx
  · obtain ⟨hd, hs⟩ := h e (List.mem_of_getElem? he)
    exact ⟨hm.request_eq.2.2 ▸ hd, hm.documented hd hs⟩

theorem Run.Documented.steps (schedule : List Nat) {r : Run} (h : r.Documented) : (r.steps schedule).Documented := by
  induction schedule generalizing r with
  | nil => exact h
  | cons i rest ih => exact ih (h.step i)

/-- Whatever the store does, and whatever other requests there are: an answer to an
    operation of the document is one that the document has, or the deadline has passed and
    the answer is 408 without a body, which it has not. The latter never happens to the
    request for health. -/
theorem answers_described (s : Service) (arrivals : List Arrival) (h : ∀ a ∈ arrivals, 0 < a.deadline) :
    let r := (Run.opening s arrivals).finish
    r.exchanges.map (·.request) = arrivals.map (·.request) ∧
      ∀ e ∈ r.exchanges, ∃ time response, e.phase = .answered time response ∧
        ∀ op ∈ operations, op.Concerns e.request →
          op.describes response.status response.body ∨
            op ≠ Document.health ∧ time = e.due ∧ response.status = 408 ∧ response.body = "" := by
  intro r
  obtain ⟨schedule, hschedule⟩ := (Run.opening s arrivals).finish_steps
  have hopening : (Run.opening s arrivals).Documented := by
    intro e he
    obtain ⟨a, ha, rfl⟩ := List.mem_map.mp he
    exact ⟨Nat.ne_of_gt (h a ha), trivial⟩
  have hdocumented : r.Documented := by
    unfold r
    rw [hschedule]
    exact hopening.steps schedule
  refine ⟨?_, fun e he => ?_⟩
  · unfold r
    rw [hschedule]
    exact (linear_run s arrivals schedule).requests
  · have hanswer := Run.finish_answered (Run.opening s arrivals) e he
    obtain ⟨-, hs⟩ := hdocumented e he
    cases hp : e.phase with
    | answered time response =>
      simp only [Documented, hp] at hs
      refine ⟨time, response, rfl, fun op hop hconcerns => ?_⟩
      exact (hs op (asks_of_concerns hop hconcerns)).imp id fun ht => ⟨ht.waits, ht.due, ht.status, ht.body⟩
    | _ => simp [Exchange.answer?, hp] at hanswer

def getRequest (path : String) : Request := { method := "GET", target := ⟨path, none⟩ }

/-- A service whose store never returns from an insert or a ping. -/
def stalledService : Service := { script := { insertDelays := [none], pingDelays := [none] } }

/-- One request to each operation. -/
def threeArrivals : List Arrival :=
  [⟨additionOf "1", 0, 50⟩, ⟨getRequest "/health", 3, 50⟩, ⟨getRequest "/ready", 5, 50⟩]

theorem three_answers_described :
    let r := (Run.opening stalledService threeArrivals).finish
    (∀ a ∈ threeArrivals, 0 < a.deadline) ∧
      r.exchanges.map (·.request) = threeArrivals.map (·.request) ∧
      ∀ e ∈ r.exchanges, ∃ time response, e.phase = .answered time response ∧
        ∀ op ∈ operations, op.Concerns e.request →
          op.describes response.status response.body ∨
            op ≠ Document.health ∧ time = e.due ∧ response.status = 408 ∧ response.body = "" := by
  have h : ∀ a ∈ threeArrivals, 0 < a.deadline := by decide
  exact ⟨h, answers_described stalledService threeArrivals h⟩

/-- When the store does not return from a ping or an insert the answer is 408 without a
    body, and the document has no such answer for either operation. -/
theorem stalled_store_is_undocumented :
    Document.ready.Concerns (getRequest "/ready") ∧ Document.addNumber.Concerns (additionOf "1") ∧
      (Run.opening stalledService [⟨getRequest "/ready", 0, 50⟩]).finish.responses = [Response.bare 408] ∧
      (Run.opening stalledService [⟨additionOf "1", 0, 50⟩]).finish.responses = [Response.bare 408] ∧
      Document.ready.describes 408 (Response.bare 408).body = false ∧
      Document.addNumber.describes 408 (Response.bare 408).body = false :=
  ⟨⟨by decide, by decide⟩, ⟨by decide, by decide⟩, by cbv, by cbv, by decide, by decide⟩

end NumberRegistry.Api
