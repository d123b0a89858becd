/-
  NumberRegistry.Proofs.Api.Balance — the counters, the store and the answers agree.

  A run starts with nothing stored and nothing counted, and no deadline is nothing.

  Proved, for all requests and every order of steps:
  - `Balanced`: after every step each counter is the number of commits or of answers
    that it stands for, those of requests cut off at the deadline included.
  - `counters_balance`: once every request that has started is answered, the metrics say
    how many records there are, how many answers failed at the insert and at the read,
    and how many requests to add a number there were. Each record is that of an answer
    200, of one that failed at the read, or of one cut off after its insert.
-/
import NumberRegistry.Proofs.Api.Commits
import NumberRegistry.Proofs.Metrics.Exposition

namespace NumberRegistry.Api

open Http Metrics

/-- Nothing has been stored or counted. -/
structure Service.Fresh (s : Service) : Prop where
  records : s.store.records = []
  inserted : s.metrics.inserted = 0
  storeErrors : s.metrics.storeErrors = []
  latencies : s.metrics.latencies = []

/-- Any answer to a request to add a number. -/
def anyAddition : Request → Response → Bool := fun request _ => IsAddition request

/-- An answer 200 to a request to add a number. -/
def numbersShown : Request → Response → Bool := fun request response =>
  IsAddition request ∧ response.status = 200

/-- An answer that a store call has failed. -/
def storeFailed (words : String) : Request → Response → Bool := fun _ response => FailedWith words response

/-- An answer that the deadline has passed. -/
def pastDeadline : Request → Response → Bool := fun _ response => response.status = 408

/-- The exchange has come to an answer like this. -/
def Exchange.answeredWith (p : Request → Response → Bool) (e : Exchange) : Bool := e.answer?.any (p e.request)

namespace Run

/-- How many requests were answered like this. -/
def tally (r : Run) (p : Request → Response → Bool) : Nat := r.exchanges.countP (Exchange.answeredWith p)

/-- Every request that has started is answered. -/
def Quiet (r : Run) : Prop := ∀ e ∈ r.exchanges, e.phase = .arriving ∨ e.answer?.isSome

/-- A step changes a tally by what it makes of the one exchange. -/
theorem countP_set {p : Exchange → Bool} {l : List Exchange} {i : Nat} {e : Exchange} (e' : Exchange)
    (he : l[i]? = some e) : (l.set i e').countP p + (p e).toNat = l.countP p + (p e').toNat := by
  obtain ⟨hi, rfl⟩ := List.getElem?_eq_some_iff.mp he
  have hpos : p l[i] = true → 0 < l.countP p := fun h => List.countP_pos_iff.mpr ⟨_, List.getElem_mem hi, h⟩
  rw [List.countP_set hi]
  cases hp : p l[i] with
  | false => cases p e' <;> simp
  | true =>
    have := hpos hp
    cases p e' <;> simp <;> omega

end Run

/-! ## One move -/

namespace Exchange

theorem answeredWith_answer (p : Request → Response → Bool) (e : Exchange) (time : Nat) (response : Response) :
    (e.answer time response).answeredWith p = p e.request (forMethod e.request response) := rfl

theorem not_answeredWith {e : Exchange} (p : Request → Response → Bool) (h : e.answer? = none) :
    e.answeredWith p = false := by simp [answeredWith, h]

theorem not_failed_answer (words : String) (e : Exchange) (time : Nat) {response : Response}
    (h : response.status ≠ 500) : (e.answer time response).answeredWith (storeFailed words) = false := by
  rw [answeredWith_answer]
  exact decide_eq_false (not_failedWith (by rwa [status_forMethod]))

theorem not_failed_timeOut (words : String) (e : Exchange) (time : Nat) :
    (e.timeOut time).answeredWith (storeFailed words) = false :=
  not_failed_answer words e time (by simp [Response.bare])

theorem failed_answer_insert {e : Exchange} (ha : IsAddition e.request) (time : Nat) (cause : Store.Error) :
    (e.answer time (Error.insert cause).response).answeredWith (storeFailed insertWords) = true ∧
      (e.answer time (Error.insert cause).response).answeredWith (storeFailed listWords) = false := by
  simp only [answeredWith_answer, storeFailed, forMethod_addition ha]
  exact ⟨decide_eq_true (failed_insert cause).1, decide_eq_false (failed_insert cause).2⟩

theorem failed_answer_list {e : Exchange} (ha : IsAddition e.request) (time : Nat) (cause : Store.Error) :
    (e.answer time (Error.list cause).response).answeredWith (storeFailed insertWords) = false ∧
      (e.answer time (Error.list cause).response).answeredWith (storeFailed listWords) = true := by
  simp only [answeredWith_answer, storeFailed, forMethod_addition ha]
  exact ⟨decide_eq_false (failed_list cause).2, decide_eq_true (failed_list cause).1⟩

theorem added_answer {e : Exchange} (time : Nat) (response : Response) :
    (e.answer time response).answeredWith anyAddition = decide (IsAddition e.request) := rfl

theorem added_timeOut {e : Exchange} (time : Nat) :
    (e.timeOut time).answeredWith anyAddition = decide (IsAddition e.request) := rfl

theorem Move.inserted {e e' : Exchange} {s s' : Service} {c : Option (Store.Record Nat)}
    (h : Move e s c e' s') : s'.metrics.inserted = s.metrics.inserted + c.toList.length := by
  cases h <;> simp [timed, countInserted, countLatency, countStoreError]

/-- A store call that fails is counted under its name, with the one answer that says so. -/
theorem Move.storeErrors {e e' : Exchange} {s s' : Service} {c : Option (Store.Record Nat)}
    (h : Move e s c e' s') {before : List (Store.Record Nat)} {log : List Commit} {i : Nat}
    (hs : Standing before log i e) :
    count "insert" s'.metrics.storeErrors + (e.answeredWith (storeFailed insertWords)).toNat =
        count "insert" s.metrics.storeErrors + (e'.answeredWith (storeFailed insertWords)).toNat ∧
      count "list" s'.metrics.storeErrors + (e.answeredWith (storeFailed listWords)).toNat =
        count "list" s.metrics.storeErrors + (e'.answeredWith (storeFailed listWords)).toNat := by
  cases h with
  | rest _ => exact ⟨rfl, rfl⟩
  | refuse hp _ => simp [not_answeredWith, answer?, hp, not_failed_timeOut]
  | reply hp _ ha =>
    have hstatus := status_of_answer ha
    simp [not_answeredWith, answer?, hp, not_failed_answer _ e _ (ne_of_mem_of_not_mem hstatus (by decide))]
  | expose hp _ _ hr =>
    simp [not_answeredWith, answer?, hp, not_failed_answer _ e _ (fun h => by rw [h] at hr; omega)]
  | callPing hp _ _ => simp [answeredWith, answer?, hp]
  | reject hp _ _ _ =>
    simp [not_answeredWith, answer?, hp, timed, countLatency, not_failed_answer, Error.response, Error.status]
  | callInsert hp _ _ _ => simp [answeredWith, answer?, hp]
  | insertFails hp _ _ =>
    simp only [Standing, hp] at hs
    simp [not_answeredWith, answer?, hp, timed, countLatency, countStoreError, count_bump,
      failed_answer_insert hs.2.1]
  | commit hp _ _ => simp [answeredWith, answer?, hp, countInserted]
  | insertLate hp _ => simp [not_answeredWith, answer?, hp, timed, countLatency, not_failed_timeOut]
  | listFails hp _ _ =>
    simp only [Standing, hp] at hs
    simp [not_answeredWith, answer?, hp, timed, countLatency, countStoreError, count_bump,
      failed_answer_list hs.2]
  | list hp _ _ => simp [not_answeredWith, answer?, hp, timed, countLatency, not_failed_answer]
  | listLate hp _ => simp [not_answeredWith, answer?, hp, timed, countLatency, not_failed_timeOut]
  | pingFails hp _ => simp [not_answeredWith, answer?, hp, not_failed_answer]
  | ping hp _ =>
    cases s.store.ping.1.isOk <;> simp [not_answeredWith, answer?, hp, not_failed_answer]
  | pingLate hp _ => simp [not_answeredWith, answer?, hp, not_failed_timeOut]

/-- The time of a request to add a number is taken when it is answered, whatever the answer. -/
theorem Move.latencies {e e' : Exchange} {s s' : Service} {c : Option (Store.Record Nat)}
    (h : Move e s c e' s') {before : List (Store.Record Nat)} {log : List Commit} {i : Nat}
    (hs : Standing before log i e) (hd : 0 < e.deadline) :
    count addNumber s'.metrics.latencies + (e.answeredWith anyAddition).toNat =
      count addNumber s.metrics.latencies + (e'.answeredWith anyAddition).toNat := by
  cases h with
  | rest _ => rfl
  | refuse _ hz => omega
  | reply hp _ ha =>
    have hn : ¬ IsAddition e.request := fun hadd => by rw [actionOf_addition hadd] at ha; cases ha
    simp [not_answeredWith, answer?, hp, added_answer, hn]
  | expose hp _ ha _ =>
    have hn : ¬ IsAddition e.request := fun hadd => by rw [actionOf_addition hadd] at ha; cases ha
    simp [not_answeredWith, answer?, hp, added_answer, hn]
  | callPing hp _ _ => simp [answeredWith, answer?, hp]
  | reject hp _ ha _ =>
    simp [not_answeredWith, answer?, hp, timed, countLatency, count_bump, added_answer, (isAddition_of_add ha).1]
  | callInsert hp _ _ _ => simp [answeredWith, answer?, hp]
  | insertFails hp _ _ =>
    simp only [Standing, hp] at hs
    simp [not_answeredWith, answer?, hp, timed, countLatency, countStoreError, count_bump, added_answer, hs.2.1]
  | commit hp _ _ => simp [answeredWith, answer?, hp, countInserted]
  | insertLate hp _ =>
    simp only [Standing, hp] at hs
    simp [not_answeredWith, answer?, hp, timed, countLatency, count_bump, added_timeOut, hs.2.1]
  | listFails hp _ _ =>
    simp only [Standing, hp] at hs
    simp [not_answeredWith, answer?, hp, timed, countLatency, countStoreError, count_bump, added_answer, hs.2]
  | list hp _ _ =>
    simp only [Standing, hp] at hs
    simp [not_answeredWith, answer?, hp, timed, countLatency, count_bump, added_answer, hs.2]
  | listLate hp _ =>
    simp only [Standing, hp] at hs
    simp [not_answeredWith, answer?, hp, timed, countLatency, count_bump, added_timeOut, hs.2]
  | pingFails hp _ | ping hp _ =>
    simp only [Standing, hp] at hs
    simp [not_answeredWith, answer?, hp, added_answer, hs.2]
  | pingLate hp _ =>
    simp only [Standing, hp] at hs
    simp [not_answeredWith, answer?, hp, added_timeOut, hs.2]

/-- Nothing is counted under another name. -/
theorem Move.counts {e e' : Exchange} {s s' : Service} {c : Option (Store.Record Nat)} (h : Move e s c e' s')
    (he : Counts ["insert", "list"] s.metrics.storeErrors) (hl : Counts [addNumber] s.metrics.latencies) :
    Counts ["insert", "list"] s'.metrics.storeErrors ∧ Counts [addNumber] s'.metrics.latencies := by
  have hl' := hl.bump (List.mem_singleton.mpr rfl)
  cases h with
  | insertFails _ _ _ => exact ⟨he.bump (by simp), hl'⟩
  | listFails _ _ _ => exact ⟨he.bump (by simp), hl'⟩
  | reject _ _ _ _ | insertLate _ _ | list _ _ _ | listLate _ _ => exact ⟨he, hl'⟩
  | _ => exact ⟨he, hl⟩

end Exchange

/-! ## All moves -/

/-- Each counter is the number of commits or of answers that it stands for. -/
structure Balanced (r : Run) (log : List Commit) : Prop where
  deadlines : ∀ e ∈ r.exchanges, 0 < e.deadline
  inserted : r.service.metrics.inserted = log.length
  insertErrors : count "insert" r.service.metrics.storeErrors = r.tally (storeFailed insertWords)
  listErrors : count "list" r.service.metrics.storeErrors = r.tally (storeFailed listWords)
  latencies : count addNumber r.service.metrics.latencies = r.tally anyAddition
  operations : Counts ["insert", "list"] r.service.metrics.storeErrors
  endpoints : Counts [addNumber] r.service.metrics.latencies

theorem tally_opening (s : Service) (arrivals : List Arrival) (p : Request → Response → Bool) :
    (Run.opening s arrivals).tally p = 0 := by
  refine List.countP_eq_zero.mpr fun e he => ?_
  obtain ⟨a, _, rfl⟩ := List.mem_map.mp he
  simp [Exchange.answeredWith, Exchange.answer?, Arrival.exchange]

theorem balanced_opening {s : Service} {arrivals : List Arrival} (hs : s.Fresh)
    (hd : ∀ a ∈ arrivals, 0 < a.deadline) : Balanced (Run.opening s arrivals) [] := by
  refine ⟨fun e he => ?_, hs.inserted, ?_, ?_, ?_, ?_, ?_⟩
  · obtain ⟨a, ha, rfl⟩ := List.mem_map.mp he
    exact hd a ha
  · rw [tally_opening]; simp [Run.opening, hs.storeErrors, count]
  · rw [tally_opening]; simp [Run.opening, hs.storeErrors, count]
  · rw [tally_opening]; simp [Run.opening, hs.latencies, count]
  · simpa [Run.opening, hs.storeErrors] using counts_nil _
  · simpa [Run.opening, hs.latencies] using counts_nil _

theorem Balanced.step {s₀ : Service} {arrivals : List Arrival} {r : Run} {log : List Commit}
    (h : Balanced r log) (hlin : Linear s₀ arrivals r log) (i : Nat) :
    Balanced (r.step i) (log ++ (r.commit? i).toList) := by
  obtain ⟨-, hstep, hcommit⟩ | ⟨e, e', s', c, he, hm, hstep, hcommit⟩ := r.step_cases i
  · rw [hstep, hcommit]; simpa using h
  have hs := hlin.standing i e he
  have hd := h.deadlines e (List.mem_of_getElem? he)
  obtain ⟨hinsert, hlist⟩ := hm.storeErrors hs
  obtain ⟨hops, hends⟩ := hm.counts h.operations h.endpoints
  have htally : ∀ p : Request → Response → Bool,
      (⟨s', r.exchanges.set i e'⟩ : Run).tally p + (e.answeredWith p).toNat =
        r.tally p + (e'.answeredWith p).toNat := fun p => Run.countP_set e' he
  rw [hstep, hcommit]
  refine ⟨fun x hx => ?_, ?_, ?_, ?_, ?_, hops, hends⟩
  · rcases List.mem_or_eq_of_mem_set hx with hx | rfl
    · exact h.deadlines x hx
    · rw [hm.request_eq.2.2]; exact hd
  · have := hm.inserted
    have := h.inserted
    cases c <;> simp at * <;> omega
  · have := htally (storeFailed insertWords)
    have := h.insertErrors
    show count "insert" s'.metrics.storeErrors = _
    omega
  · have := htally (storeFailed listWords)
    have := h.listErrors
    show count "list" s'.metrics.storeErrors = _
    omega
  · have := htally anyAddition
    have := h.latencies
    have := hm.latencies hs hd
    show count addNumber s'.metrics.latencies = _
    omega

theorem Balanced.steps {s₀ : Service} {arrivals : List Arrival} :
    ∀ (schedule : List Nat) {r : Run} {log : List Commit}, Balanced r log → Linear s₀ arrivals r log →
      Balanced (r.steps schedule) (log ++ r.commits schedule) := by
  intro schedule
  induction schedule with
  | nil => intro r log h _; simpa [Run.commits, Run.steps] using h
  | cons i rest ih =>
    intro r log h hlin
    have := ih (h.step hlin i) (hlin.step i)
    rw [List.append_assoc] at this
    exact this

theorem balanced_run {s : Service} {arrivals : List Arrival} (hs : s.Fresh)
    (hd : ∀ a ∈ arrivals, 0 < a.deadline) (schedule : List Nat) :
    Balanced ((Run.opening s arrivals).steps schedule) ((Run.opening s arrivals).commits schedule) := by
  simpa using (balanced_opening hs hd).steps schedule (linear_opening s arrivals)

/-! ## Commits by their answers -/

/-- The request of a commit is answered like this. -/
def Run.committedWith (r : Run) (p : Request → Response → Bool) (c : Commit) : Bool :=
  r.exchanges[c.place]?.any (Exchange.answeredWith p)

/-- What is found at some places is found in the whole list, if nothing of it is elsewhere. -/
theorem countP_places {l : List Exchange} {places : List Nat} (hn : places.Nodup) {p : Exchange → Bool}
    (h : ∀ i e, l[i]? = some e → p e = true → i ∈ places) :
    (places.countP fun i => l[i]?.any p) = l.countP p := by
  have hl : l.countP p = (List.range l.length).countP fun i => l[i]?.any p := by
    have hm : l.map some = (List.range l.length).map (l[·]?) := by
      apply List.ext_getElem <;> simp
    have := congrArg (List.countP (Option.any p)) hm
    simpa [List.countP_map, Function.comp_def] using this
  rw [hl, List.countP_eq_length_filter, List.countP_eq_length_filter]
  refine List.Perm.length_eq ((List.perm_ext_iff_of_nodup (hn.filter _) (List.nodup_range.filter _)).mpr fun i => ?_)
  simp only [List.mem_filter, List.mem_range]
  refine ⟨fun ⟨_, hi⟩ => ⟨?_, hi⟩, fun ⟨_, hi⟩ => ⟨?_, hi⟩⟩
  · obtain ⟨e, he, _⟩ := (Option.any_eq_true _ _).mp hi
    exact (List.getElem?_eq_some_iff.mp he).1
  · obtain ⟨e, he, hp⟩ := (Option.any_eq_true _ _).mp hi
    exact h i e he hp

theorem length_of_three {α : Type} {l : List α} {a b c : α → Bool}
    (h : ∀ x ∈ l, (a x).toNat + (b x).toNat + (c x).toNat = 1) :
    l.length = l.countP a + l.countP b + l.countP c := by
  induction l with
  | nil => rfl
  | cons x l ih =>
    have hx := h x (List.mem_cons_self ..)
    have := ih fun y hy => h y (List.mem_cons_of_mem _ hy)
    simp only [List.countP_cons, List.length_cons]
    cases ha : a x <;> cases hb : b x <;> cases hc : c x <;> simp [ha, hb, hc] at hx ⊢ <;> omega

theorem Shows.status {records : List (Store.Record Nat)} {response : Response} (h : Shows records response) :
    response.status = 200 := by
  obtain ⟨values, rfl, _⟩ := h
  simp [numbersResponse]

/-- An answered request to add a number has one of four statuses. -/
theorem Settled.status {before : List (Store.Record Nat)} {log : List Commit} {i : Nat} {response : Response}
    (h : Settled before log i response) : response.status ∈ [200, 400, 408, 500] := by
  cases h with
  | shown k _ _ hs => simp [hs.status]
  | late hr => simp [hr]
  | _ => simp [Error.response, Error.status]

/-- A request that was answered 200, or that its read has failed, has committed. -/
theorem Settled.committed {before : List (Store.Record Nat)} {log : List Commit} {i : Nat} {response : Response}
    (h : Settled before log i response) (hr : response.status = 200 ∨ FailedWith listWords response) :
    Committed log i := by
  cases h with
  | shown k _ hc _ => exact hc.committed
  | listFailed _ hc => exact hc
  | insertFailed cause _ =>
    rcases hr with hr | hr
    · simp [Error.response, Error.status] at hr
    · exact absurd hr (failed_insert cause).2
  | refused _ _ => rcases hr with hr | hr <;> simp [FailedWith, Error.response, Error.status] at hr
  | late hl => rcases hr with hr | hr <;> simp [FailedWith, hl] at hr

/-- The answer to a request that has committed is 200, that the read failed, or 408. -/
theorem Settled.of_committed {before : List (Store.Record Nat)} {log : List Commit} {i : Nat} {response : Response}
    (h : Settled before log i response) (hc : Committed log i) :
    response.status = 200 ∨ FailedWith listWords response ∨ response.status = 408 := by
  cases h with
  | shown _ _ _ hs => exact Or.inl hs.status
  | listFailed cause _ => exact Or.inr (Or.inl (failed_list cause).1)
  | insertFailed _ hn => exact absurd hc hn
  | refused _ hn => exact absurd hc hn
  | late hl => exact Or.inr (Or.inr hl)

/-- What is known of an answered request to add a number. -/
theorem Linear.settled {s₀ : Service} {arrivals : List Arrival} {r : Run} {log : List Commit}
    (h : Linear s₀ arrivals r log) {i : Nat} {e : Exchange} (he : r.exchanges[i]? = some e)
    {response : Response} (ha : e.answer? = some response) :
    (IsAddition e.request → Settled s₀.store.records log i response) ∧
      (¬ IsAddition e.request → ¬ Committed log i ∧ response.status ≠ 500) := by
  have hs := h.standing i e he
  unfold Exchange.answer? at ha
  split at ha
  · rename_i hp
    cases ha
    simpa only [Standing, hp] using hs
  · cases ha

/-- As many requests are answered so as have committed and are answered so, when only
    requests that have committed are. -/
theorem Linear.tally_eq {s₀ : Service} {arrivals : List Arrival} {r : Run} {log : List Commit}
    (h : Linear s₀ arrivals r log) {p : Request → Response → Bool}
    (hp : ∀ request response, p request response = true →
      IsAddition request ∧ response.status = 200 ∨ FailedWith listWords response) :
    r.tally p = log.countP (r.committedWith p) := by
  have hplaces : log.countP (r.committedWith p) =
      (log.map (·.place)).countP fun i => r.exchanges[i]?.any (Exchange.answeredWith p) := by
    rw [List.countP_map]; rfl
  rw [hplaces, countP_places h.once]
  · rfl
  · intro i e he hans
    obtain ⟨response, ha, hresp⟩ := (Option.any_eq_true _ _).mp hans
    obtain ⟨hset, hother⟩ := h.settled he ha
    have hcommitted : Committed log i := by
      rcases hp _ _ hresp with ⟨hadd, h200⟩ | hfail
      · exact (hset hadd).committed (Or.inl h200)
      · by_cases hadd : IsAddition e.request
        · exact (hset hadd).committed (Or.inr hfail)
        · exact absurd hfail (not_failedWith (hother hadd).2)
    obtain ⟨c, hc, hi⟩ := hcommitted
    exact List.mem_map.mpr ⟨c, hc, hi⟩

/-- Once all is answered, each commit is that of an answer 200, of a failed read or of an
    answer 408. -/
theorem Linear.commits_split {s₀ : Service} {arrivals : List Arrival} {r : Run} {log : List Commit}
    (h : Linear s₀ arrivals r log) (hq : r.Quiet) :
    log.length = log.countP (r.committedWith numbersShown) +
      log.countP (r.committedWith (storeFailed listWords)) + log.countP (r.committedWith pastDeadline) := by
  refine length_of_three fun c hc => ?_
  have hcommitted : Committed log c.place := ⟨c, hc, rfl⟩
  obtain ⟨a, ha, hadd, _⟩ := h.asked c hc
  obtain ⟨e, he⟩ : ∃ e, r.exchanges[c.place]? = some e := by
    have hlen := congrArg List.length h.requests
    simp only [List.length_map] at hlen
    have := (List.getElem?_eq_some_iff.mp ha).1
    exact ⟨_, List.getElem?_eq_getElem (by omega)⟩
  obtain ⟨b, hb, hreq⟩ := h.request_eq he
  rw [ha] at hb
  cases hb
  rw [hreq] at hadd
  rcases hq e (List.mem_of_getElem? he) with hp | hans
  · have := h.standing _ e he
    simp only [Standing, hp] at this
    exact absurd hcommitted this
  · obtain ⟨response, hresp⟩ := Option.isSome_iff_exists.mp hans
    have hset := (h.settled he hresp).1 hadd
    simp only [Run.committedWith, he, Option.any_some, Exchange.answeredWith, hresp, numbersShown, pastDeadline,
      storeFailed, hadd, true_and]
    rcases hset.of_committed hcommitted with h200 | hfail | h408
    · simp [h200, @not_failedWith listWords response (by omega)]
    · simp [hfail, hfail.1]
    · simp [h408, @not_failedWith listWords response (by omega)]

/-! ## The balance -/

/-- From nothing stored and nothing counted, once every request that has started is
    answered: the metrics say how many records there are, how many answers tell of a
    failed insert and of a failed read, and how many requests to add a number there were,
    whatever they were answered. Each record is that of an answer 200, of an answer that
    the read failed, or of an answer 408 to a request that had committed. -/
theorem counters_balance (s : Service) (arrivals : List Arrival) (schedule : List Nat) (hs : s.Fresh)
    (hd : ∀ a ∈ arrivals, 0 < a.deadline) (hq : ((Run.opening s arrivals).steps schedule).Quiet) :
    let r := (Run.opening s arrivals).steps schedule
    let log := (Run.opening s arrivals).commits schedule
    let records := r.service.store.records
    let lines := r.service.metrics.exposition
    Says lines insertedName records.length ∧
    records.length = r.tally numbersShown + r.tally (storeFailed listWords) + log.countP (r.committedWith pastDeadline) ∧
    Says lines (series storeErrorsName "operation" "insert") (r.tally (storeFailed insertWords)) ∧
    Says lines (series storeErrorsName "operation" "list") (r.tally (storeFailed listWords)) ∧
    Says lines (series (latencyName ++ "_count") "endpoint" addNumber) (r.tally anyAddition) ∧
    ∀ e ∈ r.exchanges, IsAddition e.request → ∀ response, e.answer? = some response →
      response.status ∈ [200, 400, 408, 500] := by
  intro r log records lines
  have hlin : Linear s arrivals r log := linear_run s arrivals schedule
  have hbal : Balanced r log := balanced_run hs hd schedule
  have hlen : records.length = log.length := by
    show r.service.store.records.length = _
    rw [hlin.records, hs.records]
    simp
  refine ⟨?_, ?_, ?_, ?_, ?_, fun e he hadd response hresp => ?_⟩
  · rw [hlen, ← hbal.inserted]
    exact says_inserted _
  · rw [hlen, hlin.commits_split hq, hlin.tally_eq (p := numbersShown), hlin.tally_eq (p := storeFailed listWords)]
    · intro _ response h
      exact Or.inr (of_decide_eq_true h)
    · intro request response h
      exact Or.inl (of_decide_eq_true h)
  · rw [← hbal.insertErrors]
    exact says_storeErrors _ hbal.operations (by simp)
  · rw [← hbal.listErrors]
    exact says_storeErrors _ hbal.operations (by simp)
  · rw [← hbal.latencies]
    exact says_latencies _ hbal.endpoints
  · obtain ⟨i, hi⟩ := List.getElem?_of_mem he
    exact ((hlin.settled hi hresp).1 hadd).status

/-- The second read fails, the third takes for ever, and the fourth insert fails. -/
def unevenService : Service :=
  { script :=
      { insertFailures := [none, none, none, some (.unavailable "gone")]
        listFailures := [none, some (.unavailable "gone")]
        listDelays := [some 0, some 0, none] } }

def fourAdditions : List Arrival :=
  [⟨additionOf "5", 0, 100⟩, ⟨additionOf "3", 1, 100⟩, ⟨additionOf "4", 2, 100⟩, ⟨additionOf "6", 3, 100⟩]

def fourInTurn : List Nat := [0, 0, 0, 1, 1, 1, 2, 2, 2, 3, 3]

def fourAnswered : Run := (Run.opening unevenService fourAdditions).steps fourInTurn

theorem four_additions_balance :
    fourAnswered.tally numbersShown = 1 ∧ fourAnswered.tally (storeFailed listWords) = 1 ∧
      ((Run.opening unevenService fourAdditions).commits fourInTurn).countP
        (fourAnswered.committedWith pastDeadline) = 1 ∧
      fourAnswered.service.store.records.length = 1 + 1 + 1 ∧
      Says fourAnswered.service.metrics.exposition (series storeErrorsName "operation" "insert") 1 ∧
      Says fourAnswered.service.metrics.exposition (series (latencyName ++ "_count") "endpoint" addNumber) 4 := by
  have hquiet : fourAnswered.Quiet := by
    have h : (fourAnswered.exchanges.all fun e => e.answer?.isSome) = true := by decide +kernel
    exact fun e he => Or.inr (List.all_eq_true.mp h e he)
  have hshown : fourAnswered.tally numbersShown = 1 := by decide +kernel
  have hlist : fourAnswered.tally (storeFailed listWords) = 1 := by decide +kernel
  have hinsert : fourAnswered.tally (storeFailed insertWords) = 1 := by decide +kernel
  have hadded : fourAnswered.tally anyAddition = 4 := by decide +kernel
  have hlate : ((Run.opening unevenService fourAdditions).commits fourInTurn).countP
      (fourAnswered.committedWith pastDeadline) = 1 := by decide +kernel
  obtain ⟨-, hlength, hinserts, -, hlatencies, -⟩ :=
    counters_balance unevenService fourAdditions fourInTurn ⟨rfl, rfl, rfl, rfl⟩ (by decide) hquiet
  refine ⟨hshown, hlist, hlate, ?_, ?_, ?_⟩
  · refine hlength.trans ?_
    show fourAnswered.tally numbersShown + fourAnswered.tally (storeFailed listWords) +
      List.countP (fourAnswered.committedWith pastDeadline) _ = _
    rw [hshown, hlist, hlate]
  · rw [← hinsert]; exact hinserts
  · rw [← hadded]; exact hlatencies

end NumberRegistry.Api
