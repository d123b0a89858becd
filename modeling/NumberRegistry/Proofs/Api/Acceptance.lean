/-
  NumberRegistry.Proofs.Api.Acceptance — which numbers a request can ask to add.

  The query of a request asks for a number if one of its pairs, and only one, has the key
  `number`, with the number in decimal for its value (`AsksFor`). That is what the reader
  of the query finds, going through the pairs one by one (`numberOf_ok_iff`).

  Proved, under the clock and among any other requests:
  - `addition_accepted`: a request that asks for a 32-bit integer has that integer
    inserted; any other is answered 400 at once, and that is all it does. Pairs with other
    keys, and where they stand, make no difference.
-/
import NumberRegistry.Proofs.Api.Deadline
import NumberRegistry.Proofs.Client.Body

namespace NumberRegistry.Api

open Http Text

/-! ## Reading the pairs -/

/-- Just one of the pairs has the key `number`, and its value is a numeral of `n`. -/
def AsksFor (pairs : List (String × String)) (n : Int) : Prop :=
  ∃ value, pairs.filter (·.1 = "number") = [("number", value)] ∧ Decimal.Numeral value.toList n

/-- Once there is a number, no other pair may have its key. -/
theorem readNumber_found {m n : Int32} {pairs : List (String × String)} :
    readNumber (some m) pairs = .ok n ↔ pairs.filter (·.1 = "number") = [] ∧ m = n := by
  induction pairs with
  | nil => simp [readNumber]
  | cons p pairs ih =>
    obtain ⟨key, value⟩ := p
    by_cases hk : key = "number" <;> simp [readNumber, hk, ih]

theorem readNumber_ok_iff {n : Int32} {pairs : List (String × String)} :
    readNumber none pairs = .ok n ↔ AsksFor pairs n.toInt := by
  induction pairs with
  | nil => simp [readNumber, AsksFor]
  | cons p pairs ih =>
    obtain ⟨key, value⟩ := p
    by_cases hk : key = "number"
    · subst hk
      have hasks : AsksFor (("number", value) :: pairs) n.toInt ↔
          pairs.filter (·.1 = "number") = [] ∧ Decimal.Numeral value.toList n.toInt := by
        simp [AsksFor]
      rw [hasks, ← Decimal.parseInt32_ok_iff]
      cases hp : Decimal.parseInt32 value.toList with
      | error cause => simp [readNumber, hp]
      | ok m => simp [readNumber, hp, readNumber_found]
    · simp only [readNumber, hk, if_false, ih, AsksFor, decide_false, Bool.false_eq_true, not_false_eq_true,
        List.filter_cons_of_neg]

/-- The number of a request is the one that its query asks for. -/
theorem numberOf_ok_iff {query : Option String} {n : Int32} :
    numberOf query = .ok n ↔ AsksFor (Form.decode (query.getD "")) n.toInt := readNumber_ok_iff

/-- Only the pairs with the key `number` count, in any order. -/
theorem AsksFor.perm {pairs pairs' : List (String × String)} {n : Int}
    (h : (pairs'.filter (·.1 = "number")).Perm (pairs.filter (·.1 = "number"))) : AsksFor pairs' n ↔ AsksFor pairs n := by
  have hone : ∀ value, pairs'.filter (·.1 = "number") = [("number", value)] ↔
      pairs.filter (·.1 = "number") = [("number", value)] := fun value => by
    rw [← List.perm_singleton, ← List.perm_singleton]
    exact ⟨h.symm.trans, h.trans⟩
  simp only [AsksFor, hone]

theorem numberOf_perm {query query' : Option String}
    (h : ((Form.decode (query'.getD "")).filter (·.1 = "number")).Perm
      ((Form.decode (query.getD "")).filter (·.1 = "number"))) :
    (numberOf query').toOption = (numberOf query).toOption := by
  have hok : ∀ n, numberOf query' = .ok n ↔ numberOf query = .ok n := fun n => by
    rw [numberOf_ok_iff, numberOf_ok_iff, AsksFor.perm h]
  cases hq : numberOf query with
  | ok n => rw [(hok n).mpr hq]
  | error cause =>
    cases hq' : numberOf query' with
    | ok n => rw [(hok n).mp hq'] at hq; cases hq
    | error cause' => rfl

/-! ## Refusals -/

/-- What a request has done so far whose query asks for no number. -/
def OnRefusal (a : Arrival) (response : Response) (e : Exchange) (h : List (Nat × Event)) : Prop :=
  match e.phase with
  | .arriving => h = []
  | .answered _ _ => h = [(a.time, .answered response)]
  | _ => False

theorem Exchange.Move.onRefusal {e e' : Exchange} {s s' : Service} {c : Option (Store.Record Nat)}
    (hm : Exchange.Move e s c e' s') {a : Arrival} (ha : Stems e a) (hadd : IsAddition e.request) (hd : a.deadline ≠ 0)
    {cause : QueryError} (hq : numberOf e.request.target.query = .error cause) {t : Nat} (ht : e.nextTime = some t)
    {h : List (Nat × Event)} (hc : OnRefusal a (Error.invalidParams cause.message).response e h) :
    OnRefusal a (Error.invalidParams cause.message).response e' (h ++ (e.eventsTo s c e').map (t, ·)) := by
  cases hm with
  | rest hp => simp [nextTime, hp] at ht
  | refuse hp hz => exact absurd (ha.deadline ▸ hz) hd
  | reply hp _ hact | expose hp _ hact _ | callPing hp _ hact => rw [actionOf_addition hadd] at hact; cases hact
  | callInsert hp _ hact hr =>
    rw [actionOf_addition hadd] at hact
    cases hact
    rw [hq] at hr
    cases hr
  | reject hp _ hact hr =>
    rw [actionOf_addition hadd] at hact
    cases hact
    rw [hq] at hr
    cases hr
    simp only [nextTime, hp, Option.some.injEq] at ht
    simp only [OnRefusal, hp] at hc
    simp [OnRefusal, answer, hc, eventsTo, answer?, hp, Phase.event?, forMethod_addition hadd, ← ht, ha.arrival]
  | insertFails hp _ _ | insertLate hp _ | commit hp _ _ | listFails hp _ _ | list hp _ _ | listLate hp _ =>
    simp only [OnRefusal, hp] at hc
  | pingFails hp _ | ping hp _ | pingLate hp _ => simp only [OnRefusal, hp] at hc

/-- A request whose query asks for no number is answered so, and does nothing else. -/
theorem history_refusal (s : Service) {arrivals : List Arrival} {i : Nat} {a : Arrival} {cause : QueryError}
    (ha : arrivals[i]? = some a) (hadd : IsAddition a.request) (hd : a.deadline ≠ 0)
    (hq : numberOf a.request.target.query = .error cause) :
    (Run.opening s arrivals).history i = [(a.time, .answered (Error.invalidParams cause.message).response)] := by
  have hkept : Kept a s.store.failures (OnRefusal a (Error.invalidParams cause.message).response) := by
    intro e e' s₁ s₂ c h t hm hstems _ ht hc
    exact hm.onRefusal hstems (by rw [hstems.request]; exact hadd) hd (by rw [hstems.request]; exact hq) ht hc
  obtain ⟨e, time, response, -, hp, hc⟩ := hkept.history ha rfl
  simpa only [OnRefusal, hp] using hc

/-! ## Acceptance -/

/-- A request to add a number whose handler runs, among any other requests. If its query
    asks for a 32-bit integer, that integer is inserted and the answer is not 400.
    Otherwise the answer is 400 with a message in JSON, and nothing is called or stored
    for it. Other pairs, and the order of all, have no part in that. -/
theorem addition_accepted (s : Service) (arrivals : List Arrival) {i : Nat} {a : Arrival}
    (ha : arrivals[i]? = some a) (hadd : IsAddition a.request) (hd : a.deadline ≠ 0) :
    let r := Run.opening s arrivals
    let pairs := Form.decode (a.request.target.query.getD "")
    (∀ n : Int, AsksFor pairs n → -2147483648 ≤ n → n ≤ 2147483647 →
      ∃ (m : Int32) (plan : Store.Plan) (rest : List (Nat × Event)) (time : Nat) (response : Response),
        m.toInt = n ∧ r.history i = (a.time, .called (.insert m) plan) :: rest ∧
        (r.history i).getLast? = some (time, .answered response) ∧ response.status ≠ 400) ∧
    ((¬ ∃ n : Int, AsksFor pairs n ∧ -2147483648 ≤ n ∧ n ≤ 2147483647) →
      ∃ message, r.history i = [(a.time, .answered (jsonResponse 400 (errorBody message)))] ∧
        Json.parse? (jsonResponse 400 (errorBody message)).body = some (errorBody message)) ∧
    r.finish.service.store.records = s.store.records ++ stored (r.log r.turns) ∧
    ∀ query, ((Form.decode (query.getD "")).filter (·.1 = "number")).Perm (pairs.filter (·.1 = "number")) →
      (numberOf query).toOption = (numberOf a.request.target.query).toOption := by
  intro r pairs
  refine ⟨fun n hn hlo hhi => ?_, fun hnone => ?_, ?_, fun query => numberOf_perm⟩
  · have hm : (Int32.ofInt n).toInt = n := Int32.toInt_ofInt_of_le (by omega) (by omega)
    have hq : numberOf a.request.target.query = .ok (Int32.ofInt n) := numberOf_ok_iff.mpr (hm.symm ▸ hn)
    obtain ⟨insert, list, id, values, time, response, hcourse, hlast, -⟩ := history_course s ha hadd hq
    obtain ⟨rest, hrest⟩ := course_admitted hd (Int32.ofInt n) s.store.failures insert list id values
    refine ⟨_, insert, rest, time, response, hm, hcourse.trans hrest, hlast, fun h400 => ?_⟩
    have hstatus := status_of_course (hcourse ▸ hlast)
    rw [h400] at hstatus
    exact absurd hstatus (by decide)
  · cases hq : numberOf a.request.target.query with
    | ok m =>
      have hlo := Int32.le_toInt m
      have hhi := Int32.toInt_lt m
      exact absurd ⟨m.toInt, numberOf_ok_iff.mp hq, by omega, by omega⟩ hnone
    | error cause =>
      exact ⟨cause.message, history_refusal s ha hadd hd hq, Json.parse?_print (Client.plain_errorBody _)⟩
  · rw [r.finish_turns]
    exact records_log r r.turns

/-- A request with a sign, zeros in front and a foreign pair. -/
def signedNumber : Request :=
  { method := "POST", target := ⟨"/numbers", some "a=1&number=%2B007"⟩ }

theorem signed_number_accepted :
    AsksFor (Form.decode "a=1&number=%2B007") 7 ∧
      ∃ (m : Int32) (plan : Store.Plan) (rest : List (Nat × Event)), m.toInt = 7 ∧
        (Run.opening {} [⟨signedNumber, 0, 10⟩]).history 0 = (0, .called (.insert m) plan) :: rest := by
  have hdigits : Decimal.Digits ['0', '0', '7'] := ⟨by simp, by simp⟩
  have hasks : AsksFor (Form.decode "a=1&number=%2B007") 7 := ⟨"+007", by cbv, .plus hdigits⟩
  obtain ⟨m, plan, rest, -, -, hm, hhistory, -⟩ :=
    (addition_accepted {} [⟨signedNumber, 0, 10⟩] (i := 0) rfl (by decide) (by decide)).1 7 hasks (by decide) (by decide)
  exact ⟨hasks, m, plan, rest, hm, hhistory⟩

end NumberRegistry.Api
