/-
  NumberRegistry.Proofs.Api.Deadline — what an addition does, and by when.

  An addition is two calls of the store with a deadline over both. `course` says what it
  does and at what times, from the plans that its two calls get and nothing else: not from
  the other requests there are, nor from what they do to the clock and to the store.

  Proved:
  - `OnCourse`: how far an addition has come tells what it has done so far, and when. Each
    of its moves keeps that (`Exchange.Move.onCourse`).
  - `addition_in_time`: under the clock, among any other requests, what an addition does is
    its course, to the end.
-/
import NumberRegistry.Proofs.Api.Timeline

namespace NumberRegistry.Api

open Http

/-! ## The course of an addition -/

/-- The answer at the deadline. -/
def lateAnswer (a : Arrival) : Nat × Event := (a.time + a.deadline, .answered (.bare 408))

/-- The answer that the server has failed. -/
def failedResponse (words : String) (cause : Store.Error) : Response :=
  jsonResponse 500 (errorBody (words ++ cause.message))

/-- What is left of an addition when its read is called, `waited` after its arrival. -/
def readCourse (a : Arrival) (failures : Store.Failures) (list : Store.Plan) (values : List Int32) (waited : Nat) :
    List (Nat × Event) :=
  match list.delay.filter (waited + · < a.deadline) with
  | none => [lateAnswer a]
  | some d =>
    match list.failure <|> failures.listFault with
    | some cause => [(a.time + waited + d, .answered (failedResponse listWords cause))]
    | none => [(a.time + waited + d, .answered (numbersResponse values))]

/-- What an addition of `n` does and when, if its insert and its read go by these plans:
    nothing counts that is not over before the deadline, and a failed insert is the end. -/
def course (a : Arrival) (n : Int32) (failures : Store.Failures) (insert list : Store.Plan) (id : Nat)
    (values : List Int32) : List (Nat × Event) :=
  if a.deadline = 0 then [lateAnswer a]
  else
    (a.time, .called (.insert n) insert) ::
      match insert.delay.filter (· < a.deadline) with
      | none => [lateAnswer a]
      | some d =>
        match insert.failure <|> failures.insertFault with
        | some cause => [(a.time + d, .answered (failedResponse insertWords cause))]
        | none =>
          (a.time + d, .stored ⟨id, n⟩) :: (a.time + d, .called .list list) ::
            readCourse a failures list values d

/-! ## Calls and deadlines -/

namespace Exchange

theorem callEnd_of_late {e : Exchange} {wake : Store.Delay} (h : e.Late wake) : e.callEnd wake = e.due := by
  cases wake with
  | none => rfl
  | some t => exact Nat.min_eq_left (h t rfl)

theorem callEnd_of_lt {e : Exchange} {t : Nat} (h : t < e.due) : e.callEnd (some t) = t :=
  Nat.min_eq_right (Nat.le_of_lt h)

/-- A call that is over only at the deadline or later does not count. -/
theorem Late.filter {e : Exchange} {delay : Store.Delay} {made : Nat} (h : e.Late (delay.map (made + ·)))
    {p : Nat → Bool} (hp : ∀ d, p d = true → made + d < e.due) : delay.filter p = none := by
  cases delay with
  | none => rfl
  | some d =>
    have hd : ¬ p d = true := fun hpd => by
      have := h (made + d) rfl
      have := hp d hpd
      omega
    simp [Option.filter, hd]

theorem timeOut_addition {e : Exchange} (h : IsAddition e.request) (time : Nat) :
    e.timeOut time = e.answer time (.bare 408) := by
  simp only [timeOut, allowOf, actionOf_addition h]
  rfl

end Exchange

/-! ## Where an addition is on its course -/

/-- The insert of an addition is called, and returns at `wake`. -/
structure Inserting (a : Arrival) (n : Int32) (insert : Store.Plan) (wake : Store.Delay)
    (failure : Option Store.Error) (h : List (Nat × Event)) : Prop where
  admitted : a.deadline ≠ 0
  wake_eq : wake = insert.delay.map (a.time + ·)
  failure_eq : failure = insert.failure
  done : h = [(a.time, .called (.insert n) insert)]

/-- The insert of an addition has stored the number, `waited` after the arrival, and the
    read is called, and returns at `wake`. -/
structure Listing (a : Arrival) (n : Int32) (failures : Store.Failures) (insert list : Store.Plan) (id waited : Nat)
    (wake : Store.Delay) (failure : Option Store.Error) (h : List (Nat × Event)) : Prop where
  admitted : a.deadline ≠ 0
  inserted : insert.delay.filter (· < a.deadline) = some waited
  succeeded : (insert.failure <|> failures.insertFault) = none
  wake_eq : wake = list.delay.map (a.time + waited + ·)
  failure_eq : failure = list.failure
  done : h = [(a.time, .called (.insert n) insert), (a.time + waited, .stored ⟨id, n⟩),
    (a.time + waited, .called .list list)]

/-- What an addition has done so far, by how far it has come. -/
def OnCourse (a : Arrival) (n : Int32) (failures : Store.Failures) (e : Exchange) (h : List (Nat × Event)) : Prop :=
  match e.phase with
  | .arriving => h = []
  | .inserting value wake failure => value = n ∧ ∃ insert, Inserting a n insert wake failure h
  | .listing wake failure => ∃ insert list id waited, Listing a n failures insert list id waited wake failure h
  | .pinging _ _ => False
  | .answered time response =>
    ∃ insert list id values, course a n failures insert list id values = h ∧
      h.getLast? = some (time, .answered response)

section

variable {a : Arrival} {n : Int32} {failures : Store.Failures} {insert list : Store.Plan} {id waited : Nat}
  {wake : Store.Delay} {failure : Option Store.Error} {h : List (Nat × Event)}

theorem course_refused (hd : a.deadline = 0) (insert list : Store.Plan) (id : Nat) (values : List Int32) :
    course a n failures insert list id values = [lateAnswer a] := if_pos hd

/-- With any time at all, the insert is called first. -/
theorem course_admitted (hd : a.deadline ≠ 0) (n : Int32) (failures : Store.Failures) (insert list : Store.Plan)
    (id : Nat) (values : List Int32) :
    ∃ rest, course a n failures insert list id values = (a.time, .called (.insert n) insert) :: rest :=
  ⟨_, if_neg hd⟩

/-- What an addition of an accepted number can be answered. -/
theorem status_of_course {values : List Int32} {time : Nat} {response : Response}
    (hlast : (course a n failures insert list id values).getLast? = some (time, .answered response)) :
    response.status ∈ [200, 408, 500] := by
  unfold course readCourse lateAnswer at hlast
  (repeat' split at hlast) <;> simp at hlast <;> rw [← hlast.2] <;>
    simp [Response.bare, failedResponse, numbersResponse]

theorem Inserting.late (hi : Inserting a n insert wake failure h) (hl : insert.delay.filter (· < a.deadline) = none)
    (list : Store.Plan) (id : Nat) (values : List Int32) :
    course a n failures insert list id values = h ++ [lateAnswer a] := by
  simp [course, hi.admitted, hi.done, hl]

theorem Inserting.fails (hi : Inserting a n insert wake failure h) {d : Nat} {cause : Store.Error}
    (hd : insert.delay.filter (· < a.deadline) = some d) (hf : (failure <|> failures.insertFault) = some cause)
    (list : Store.Plan) (id : Nat) (values : List Int32) :
    course a n failures insert list id values = h ++ [(a.time + d, .answered (failedResponse insertWords cause))] := by
  rw [hi.failure_eq] at hf
  simp [course, hi.admitted, hi.done, hd, hf]

theorem Inserting.too_late (hi : Inserting a n insert wake failure h) {e : Exchange}
    (hdue : e.due = a.time + a.deadline) (hl : e.Late wake) : insert.delay.filter (· < a.deadline) = none := by
  rw [hi.wake_eq] at hl
  refine hl.filter fun d hlt => ?_
  have := of_decide_eq_true hlt
  omega

theorem Inserting.in_time {t : Nat} (hi : Inserting a n insert (some t) failure h) {e : Exchange}
    (hdue : e.due = a.time + a.deadline) (ht : t < e.due) :
    ∃ d, insert.delay.filter (· < a.deadline) = some d ∧ t = a.time + d := by
  obtain ⟨d, hdelay, rfl⟩ := Option.map_eq_some_iff.mp hi.wake_eq.symm
  exact ⟨d, by simp [hdelay, Option.filter]; omega, rfl⟩

theorem Listing.too_late (hl : Listing a n failures insert list id waited wake failure h) {e : Exchange}
    (hdue : e.due = a.time + a.deadline) (hlate : e.Late wake) :
    list.delay.filter (waited + · < a.deadline) = none := by
  rw [hl.wake_eq] at hlate
  refine hlate.filter fun d hlt => ?_
  have := of_decide_eq_true hlt
  omega

theorem Listing.in_time {t : Nat} (hl : Listing a n failures insert list id waited (some t) failure h) {e : Exchange}
    (hdue : e.due = a.time + a.deadline) (ht : t < e.due) :
    ∃ d, list.delay.filter (waited + · < a.deadline) = some d ∧ t = a.time + waited + d := by
  obtain ⟨d, hdelay, rfl⟩ := Option.map_eq_some_iff.mp hl.wake_eq.symm
  exact ⟨d, by simp [hdelay, Option.filter]; omega, rfl⟩

/-- Once the number is stored the rest is up to the read. -/
theorem Listing.course_eq (hl : Listing a n failures insert list id waited wake failure h) (values : List Int32) :
    course a n failures insert list id values = h ++ readCourse a failures list values waited := by
  simp [course, hl.admitted, hl.done, hl.inserted, hl.succeeded]

end

/-! ## One move -/

/-- The answer that a course ends with is its last event. -/
theorem onCourse_answer {a : Arrival} {n : Int32} {failures : Store.Failures} {e : Exchange} (s : Service)
    (hadd : IsAddition e.request) (hopen : e.answer? = none) {t : Nat} {response : Response} {h : List (Nat × Event)}
    {insert list : Store.Plan} {id : Nat} {values : List Int32}
    (hc : course a n failures insert list id values = h ++ [(t, .answered response)]) :
    OnCourse a n failures (e.answer t response) (h ++ (e.eventsTo s none (e.answer t response)).map (t, ·)) := by
  have hevents : e.eventsTo s none (e.answer t response) = [.answered response] := by
    simp only [Exchange.eventsTo, hopen, Exchange.answer, forMethod_addition hadd]
    rfl
  rw [hevents, Exchange.answer, forMethod_addition hadd]
  exact ⟨insert, list, id, values, hc, by simp⟩

/-- The failure of a call: the script's, or else the store's own. -/
theorem fault_of_fails {failure own : Option Store.Error} {cause : Store.Error}
    (h : failure = some cause ∨ failure = none ∧ own = some cause) : (failure <|> own) = some cause := by
  obtain rfl | ⟨rfl, rfl⟩ := h <;> rfl

section

variable {e e' : Exchange} {s s' : Service} {c : Option (Store.Record Nat)} {a : Arrival} {n : Int32}
  {h : List (Nat × Event)}

/-- A move that an addition makes in its time goes on with its course. -/
theorem Exchange.Move.onCourse (hm : Exchange.Move e s c e' s') (ha : Stems e a) (hadd : IsAddition e.request)
    (hq : numberOf e.request.target.query = .ok n) {t : Nat} (ht : e.nextTime = some t)
    (hc : OnCourse a n s.store.failures e h) :
    OnCourse a n s.store.failures e' (h ++ (e.eventsTo s c e').map (t, ·)) := by
  have hdue := ha.due
  cases hm with
  | rest hp => simp [nextTime, hp] at ht
  | refuse hp hd =>
    simp only [nextTime, hp, Option.some.injEq] at ht
    simp only [OnCourse, hp] at hc
    rw [ha.deadline] at hd
    rw [timeOut_addition hadd, ht, hc]
    -- neither call is made, so any plans will do
    refine onCourse_answer s hadd (by simp [answer?, hp]) ((course_refused hd ⟨none, none⟩ ⟨none, none⟩ 0 []).trans ?_)
    simp [lateAnswer, hd, ← ht, ha.arrival]
  | reply hp _ hact | expose hp _ hact _ | callPing hp _ hact => rw [actionOf_addition hadd] at hact; cases hact
  | reject hp _ hact hr =>
    rw [actionOf_addition hadd] at hact
    cases hact
    rw [hq] at hr
    cases hr
  | callInsert hp hd hact hr =>
    rw [actionOf_addition hadd] at hact
    cases hact
    rw [hq] at hr
    cases hr
    simp only [nextTime, hp, Option.some.injEq, ha.arrival] at ht
    simp only [OnCourse, hp] at hc
    rw [ha.deadline] at hd
    refine ⟨rfl, s.script.takeInsert.1, hd, by rw [ha.arrival], rfl, ?_⟩
    simp [hc, eventsTo, answer?, hp, Phase.event?, ht]
  | insertFails hp hlt hf =>
    simp only [nextTime, hp, Option.some.injEq, callEnd_of_lt hlt] at ht
    simp only [OnCourse, hp] at hc
    obtain ⟨-, insert, hi⟩ := hc
    obtain ⟨d, hd, hwake⟩ := hi.in_time hdue hlt
    have hfault := fault_of_fails (hf.imp_right (And.imp_right Store.Memory.insert_error_iff.mp))
    subst ht
    refine onCourse_answer s hadd (by simp [answer?, hp]) ((hi.fails hd hfault ⟨none, none⟩ 0 []).trans ?_)
    rw [hwake]
    rfl
  | insertLate hp hl =>
    simp only [nextTime, hp, Option.some.injEq, callEnd_of_late hl] at ht
    simp only [OnCourse, hp] at hc
    obtain ⟨-, insert, hi⟩ := hc
    rw [timeOut_addition hadd, ht]
    refine onCourse_answer s hadd (by simp [answer?, hp]) ((hi.late (hi.too_late hdue hl) ⟨none, none⟩ 0 []).trans ?_)
    rw [lateAnswer, ← hdue, ht]
  | commit hp hlt hr =>
    simp only [nextTime, hp, Option.some.injEq, callEnd_of_lt hlt] at ht
    simp only [OnCourse, hp] at hc
    obtain ⟨rfl, insert, hi⟩ := hc
    obtain ⟨d, hd, rfl⟩ := hi.in_time hdue hlt
    refine ⟨insert, s.script.takeList.1, s.store.nextId, d, hi.admitted, hd, ?_, rfl, rfl, ?_⟩
    · rw [← hi.failure_eq, Store.Memory.insertFault_of_ok hr]; rfl
    · simp [hi.done, eventsTo, answer?, hp, Phase.event?, ← ht, (Store.Memory.insert_ok hr).1]
  | listFails hp hlt hf =>
    simp only [nextTime, hp, Option.some.injEq, callEnd_of_lt hlt] at ht
    simp only [OnCourse, hp] at hc
    obtain ⟨insert, list, id, waited, hl⟩ := hc
    obtain ⟨d, hd, hwake⟩ := hl.in_time hdue hlt
    have hfault := fault_of_fails (hf.imp_right (And.imp_right Store.Memory.listSorted_error_iff.mp))
    rw [hl.failure_eq] at hfault
    subst ht
    refine onCourse_answer s hadd (by simp [answer?, hp]) ((hl.course_eq []).trans ?_)
    simp only [readCourse, hd, hfault, hwake]
    rfl
  | @list t records hp hlt hr =>
    simp only [nextTime, hp, Option.some.injEq, callEnd_of_lt hlt] at ht
    simp only [OnCourse, hp] at hc
    obtain ⟨insert, list, id, waited, hl⟩ := hc
    obtain ⟨d, hd, hwake⟩ := hl.in_time hdue hlt
    subst ht
    refine onCourse_answer s hadd (by simp [answer?, hp]) ((hl.course_eq (records.map (·.value))).trans ?_)
    simp only [readCourse, hd, ← hl.failure_eq, Store.Memory.listFault_of_ok hr, hwake]
    rfl
  | listLate hp hlate =>
    simp only [nextTime, hp, Option.some.injEq, callEnd_of_late hlate] at ht
    simp only [OnCourse, hp] at hc
    obtain ⟨insert, list, id, waited, hl⟩ := hc
    rw [timeOut_addition hadd, ht]
    refine onCourse_answer s hadd (by simp [answer?, hp]) ((hl.course_eq []).trans ?_)
    simp only [readCourse, hl.too_late hdue hlate, lateAnswer, ← hdue, ht]
  | pingFails hp _ | ping hp _ | pingLate hp _ => simp only [OnCourse, hp] at hc

end

/-! ## The whole run -/

/-- An addition does its course, to its answer, whatever other requests there are. -/
theorem history_course (s : Service) {arrivals : List Arrival} {i : Nat} {a : Arrival} {n : Int32}
    (ha : arrivals[i]? = some a) (hadd : IsAddition a.request) (hq : numberOf a.request.target.query = .ok n) :
    let r := Run.opening s arrivals
    ∃ insert list id values time response,
      r.history i = course a n s.store.failures insert list id values ∧
      (r.history i).getLast? = some (time, .answered response) ∧
      r.finish.exchanges[i]?.map (·.phase) = some (.answered time response) := by
  intro r
  have hkept : Kept a s.store.failures (OnCourse a n s.store.failures) := by
    intro e e' s₁ s₂ c h t hm hstems hf ht hc
    rw [← hf] at hc ⊢
    exact hm.onCourse hstems (by rw [hstems.request]; exact hadd) (by rw [hstems.request]; exact hq) ht hc
  obtain ⟨e, time, response, he, hp, hc⟩ := hkept.history ha rfl
  simp only [OnCourse, hp] at hc
  obtain ⟨insert, list, id, values, hcourse, hlast⟩ := hc
  exact ⟨insert, list, id, values, time, response, hcourse.symm, hlast, by rw [he]; exact congrArg some hp⟩

/-- A request to add a number, with an accepted number and among any others. The run under
    the clock is its turns, in the order of time; at each moment the log so far says what
    the store holds, and nothing in it is taken back. The calls of each kind go by the
    entries of the script, in the order they are made. What the request does, all told, is
    its course by the plans that its own two calls get, and ends with its answer. -/
theorem addition_in_time (s : Service) (arrivals : List Arrival) {i : Nat} {a : Arrival} {n : Int32}
    (ha : arrivals[i]? = some a) (hadd : IsAddition a.request) (hq : numberOf a.request.target.query = .ok n) :
    let r := Run.opening s arrivals
    (r.finish = r.play r.turns ∧ r.turns.Pairwise (·.time ≤ ·.time)) ∧
    (∀ before after, r.turns = before ++ after → r.log before <+: r.log r.turns ∧
      (r.play before).service.store.records = s.store.records ++ stored (r.log before)) ∧
    (∀ kind, ∃ k, plans kind (r.log r.turns) = (List.range k).map (s.script.planOf kind)) ∧
    ∃ insert list id values time response,
      r.history i = course a n s.store.failures insert list id values ∧
      (r.history i).getLast? = some (time, .answered response) ∧
      r.finish.exchanges[i]?.map (·.phase) = some (.answered time response) := by
  intro r
  refine ⟨⟨r.finish_turns, r.turns_sorted⟩, fun before after hsplit => ⟨?_, records_log r before⟩,
    plans_log r r.turns, history_course s ha hadd hq⟩
  rw [hsplit, Run.log_append]
  exact List.prefix_append _ _

/-- Two requests, the first of which has its number stored and then waits too long for the
    read. -/
def slowRead : List Arrival := [⟨additionOf "5", 0, 10⟩, ⟨additionOf "3", 1, 100⟩]

def slowReading : Service :=
  { script := { insertDelays := [some 3, some 1], listDelays := [some 0, some 50] } }

theorem slow_read_in_time :
    numberOf (additionOf "5").target.query = .ok 5 ∧
      (Run.opening slowReading slowRead).history 0 =
        [(0, .called (.insert 5) ⟨some 3, none⟩), (3, .stored ⟨1, 5⟩), (3, .called .list ⟨some 50, none⟩),
          (10, .answered (.bare 408))] ∧
      ∃ insert list id values,
        (Run.opening slowReading slowRead).history 0 = course ⟨additionOf "5", 0, 10⟩ 5 {} insert list id values := by
  have hq : numberOf (additionOf "5").target.query = .ok 5 := by cbv
  obtain ⟨-, -, -, insert, list, id, values, -, -, hcourse, -⟩ :=
    addition_in_time slowReading slowRead (i := 0) rfl (by decide) hq
  exact ⟨hq, by cbv, insert, list, id, values, hcourse⟩

end NumberRegistry.Api
