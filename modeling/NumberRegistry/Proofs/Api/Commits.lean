/-
  NumberRegistry.Proofs.Api.Commits — what overlapping requests see of each other.

  A run starts with requests that have not arrived (`Run.opening`) and lets them take
  steps in any order. Its log (`Run.commits`) has an entry for each insert that the
  store has taken, in the order they were taken: the place of the request and the record.

  Proved, for every service to start from, all requests and every order of steps:
  - `Linear`: the store holds the records it had and then those of the log, one for each
    request that has committed; and how far a request has come tells whether it has.
  - `additions_linear`: a request to add a number that is answered 200 shows, in
    ascending order, the numbers of the first so many records of the store, its own and
    all before it among them. So of two such answers one is contained in the other, and
    what was committed before a request started is in its answer.
-/
import NumberRegistry.Proofs.Api.Bodies
import Mathlib

namespace NumberRegistry.Api

open Http

/-! ## Runs and their logs -/

/-- A request that is still to come. -/
structure Arrival where
  request : Request
  time : Nat
  deadline : Nat

def Arrival.exchange (a : Arrival) : Exchange :=
  { request := a.request, arrival := a.time, deadline := a.deadline }

/-- An insert that the store has taken. -/
structure Commit where
  /-- The place of the request among those of the run. -/
  place : Nat
  record : Store.Record Nat
  deriving DecidableEq, Repr

namespace Run

def opening (s : Service) (arrivals : List Arrival) : Run := ⟨s, arrivals.map Arrival.exchange⟩

/-- The answer to the request at place `i`. -/
def answer? (r : Run) (i : Nat) : Option Response := r.exchanges[i]?.bind Exchange.answer?

/-- What the next step of the request at place `i` commits. -/
def commit? (r : Run) (i : Nat) : Option Commit :=
  r.exchanges[i]?.bind fun e => (e.commit? r.service).map (Commit.mk i)

/-- The commits of a run, in their order. -/
def commits (r : Run) : List Nat → List Commit
  | [] => []
  | i :: rest => (r.commit? i).toList ++ (r.step i).commits rest

theorem commits_append (r : Run) (before after : List Nat) :
    r.commits (before ++ after) = r.commits before ++ (r.steps before).commits after := by
  induction before generalizing r with
  | nil => rfl
  | cons i before ih =>
    show (r.commit? i).toList ++ (r.step i).commits (before ++ after) = _
    rw [ih, ← List.append_assoc]
    rfl

/-- A step is a move of one exchange, or nothing if there is none at the place. -/
theorem step_cases (r : Run) (i : Nat) :
    (r.exchanges[i]? = none ∧ r.step i = r ∧ r.commit? i = none) ∨
      ∃ e e' s' c, r.exchanges[i]? = some e ∧ Exchange.Move e r.service c e' s' ∧
        r.step i = ⟨s', r.exchanges.set i e'⟩ ∧ r.commit? i = c.map (Commit.mk i) := by
  cases h : r.exchanges[i]? with
  | none => exact Or.inl ⟨rfl, by simp [step, h], by simp [commit?, h]⟩
  | some e =>
    exact Or.inr ⟨e, _, _, _, rfl, Exchange.advance_move e r.service, by simp [step, h], by simp [commit?, h]⟩

end Run

/-! ## Standing -/

/-- The request at a place has put its record into the store. -/
def Committed (log : List Commit) (i : Nat) : Prop := ∃ c ∈ log, c.place = i

/-- The numbers of records in ascending order, as an answer shows them. -/
def Shows (records : List (Store.Record Nat)) (response : Response) : Prop :=
  ∃ values : List Int32, response = numbersResponse values ∧ values.Pairwise (· ≤ ·) ∧
    values.Perm (records.map (·.value))

/-- The own record of the request at place `i` is among the first `k` records. -/
def Covers (before : List (Store.Record Nat)) (log : List Commit) (i k : Nat) : Prop :=
  ∃ j c, log[j]? = some c ∧ c.place = i ∧ before.length + j < k

/-- What the answer to a request to add a number can be. -/
inductive Settled (before : List (Store.Record Nat)) (log : List Commit) (i : Nat) : Response → Prop
  | shown {response : Response} (k : Nat) (hk : k ≤ before.length + log.length) (hc : Covers before log i k)
      (hs : Shows ((before ++ log.map (·.record)).take k) response) : Settled before log i response
  | listFailed (cause : Store.Error) (hc : Committed log i) : Settled before log i (Error.list cause).response
  | insertFailed (cause : Store.Error) (hc : ¬ Committed log i) : Settled before log i (Error.insert cause).response
  | refused (cause : QueryError) (hc : ¬ Committed log i) :
      Settled before log i (Error.invalidParams cause.message).response
  | late {response : Response} (hr : response.status = 408) : Settled before log i response

/-- How far a request has come, and whether it has committed. -/
def Standing (before : List (Store.Record Nat)) (log : List Commit) (i : Nat) (e : Exchange) : Prop :=
  match e.phase with
  | .arriving => ¬ Committed log i
  | .inserting value _ _ =>
    ¬ Committed log i ∧ IsAddition e.request ∧ numberOf e.request.target.query = .ok value
  | .listing _ _ => Committed log i ∧ IsAddition e.request
  | .pinging _ _ => ¬ Committed log i ∧ ¬ IsAddition e.request
  | .answered _ response =>
    (IsAddition e.request → Settled before log i response) ∧
      (¬ IsAddition e.request → ¬ Committed log i ∧ response.status ≠ 500)

theorem not_committed_append {log : List Commit} {i : Nat} {c : Commit} (h : ¬ Committed log i) (hi : c.place ≠ i) :
    ¬ Committed (log ++ [c]) i := by
  rintro ⟨d, hd, he⟩
  rcases List.mem_append.mp hd with hd | hd
  · exact h ⟨d, hd, he⟩
  · rw [List.mem_singleton.mp hd] at he; exact hi he

theorem Committed.append {log : List Commit} {i : Nat} (h : Committed log i) (more : List Commit) :
    Committed (log ++ more) i := by
  obtain ⟨c, hc, he⟩ := h
  exact ⟨c, List.mem_append_left _ hc, he⟩

theorem Covers.committed {before : List (Store.Record Nat)} {log : List Commit} {i k : Nat}
    (h : Covers before log i k) : Committed log i := by
  obtain ⟨j, c, hj, hc, _⟩ := h
  exact ⟨c, List.mem_of_getElem? hj, hc⟩

theorem Covers.append {before : List (Store.Record Nat)} {log : List Commit} {i k : Nat}
    (h : Covers before log i k) (more : List Commit) : Covers before (log ++ more) i k := by
  obtain ⟨j, c, hj, hc, hk⟩ := h
  have hl : j < log.length := (List.getElem?_eq_some_iff.mp hj).1
  exact ⟨j, c, by rw [List.getElem?_append_left hl]; exact hj, hc, hk⟩

/-- What a request has seen stays a first part of the records. -/
theorem Settled.append {before : List (Store.Record Nat)} {log : List Commit} {i : Nat} {response : Response}
    (h : Settled before log i response) {c : Commit} (hi : c.place ≠ i) :
    Settled before (log ++ [c]) i response := by
  cases h with
  | shown k hk hc hs =>
    refine .shown k (by simp; omega) (hc.append _) ?_
    rw [List.map_append, ← List.append_assoc, List.take_append_of_le_length (by simpa using hk)]
    exact hs
  | listFailed cause hc => exact .listFailed cause (hc.append _)
  | insertFailed cause hc => exact .insertFailed cause (not_committed_append hc hi)
  | refused cause hc => exact .refused cause (not_committed_append hc hi)
  | late hr => exact .late hr

/-- The commit of another request leaves a request where it stands. -/
theorem Standing.append {before : List (Store.Record Nat)} {log : List Commit} {i : Nat} {e : Exchange}
    (h : Standing before log i e) {c : Commit} (hi : c.place ≠ i) : Standing before (log ++ [c]) i e := by
  unfold Standing at h ⊢
  split
  · rename_i hp; rw [hp] at h; exact not_committed_append h hi
  · rename_i hp; rw [hp] at h; exact ⟨not_committed_append h.1 hi, h.2⟩
  · rename_i hp; rw [hp] at h; exact ⟨h.1.append _, h.2⟩
  · rename_i hp; rw [hp] at h; exact ⟨not_committed_append h.1 hi, h.2⟩
  · rename_i hp
    rw [hp] at h
    exact ⟨fun ha => (h.1 ha).append hi, fun ha => ⟨not_committed_append (h.2 ha).1 hi, (h.2 ha).2⟩⟩

/-! ## One move -/

/-- A move that commits appends the record to the store; no other touches the records. -/
theorem Exchange.Move.records {e e' : Exchange} {s s' : Service} {c : Option (Store.Record Nat)}
    (h : Exchange.Move e s c e' s') : s'.store.records = s.store.records ++ c.toList := by
  cases h with
  | commit _ _ hr => exact (Store.Memory.insert_ok hr).2
  | ping _ _ => simp
  | _ => simp [Exchange.timed]

/-- A request commits at most once, and the number it asks to add. -/
theorem Exchange.Move.commits {e e' : Exchange} {s s' : Service} {record : Store.Record Nat}
    (h : Exchange.Move e s (some record) e' s') {before : List (Store.Record Nat)} {log : List Commit} {i : Nat}
    (hs : Standing before log i e) :
    ¬ Committed log i ∧ IsAddition e.request ∧ numberOf e.request.target.query = .ok record.value := by
  cases h with
  | commit hp _ hr =>
    simp only [Standing, hp] at hs
    rw [(Store.Memory.insert_ok hr).1]
    exact hs

theorem standing_answer {before : List (Store.Record Nat)} {log : List Commit} {i : Nat} {e : Exchange}
    {time : Nat} {response : Response} (ha : IsAddition e.request → Settled before log i response)
    (hn : ¬ IsAddition e.request → ¬ Committed log i ∧ response.status ≠ 500) :
    Standing before log i (e.answer time response) :=
  ⟨fun h => by rw [forMethod_addition (r := e.request) h]; exact ha h,
    fun h => by rw [status_forMethod]; exact hn h⟩

theorem standing_timeOut {before : List (Store.Record Nat)} {log : List Commit} {i : Nat} {e : Exchange}
    {time : Nat} (hn : ¬ IsAddition e.request → ¬ Committed log i) :
    Standing before log i (e.timeOut time) :=
  standing_answer (fun _ => .late rfl) fun h => ⟨hn h, by simp [Response.bare]⟩

/-- A read that succeeds shows all records, the own one among them. -/
theorem settled_list {before : List (Store.Record Nat)} {log : List Commit} {i : Nat} {m : Store.Memory}
    {records : List (Store.Record Nat)} (hm : m.records = before ++ log.map (·.record))
    (hr : m.listSorted = .ok records) (hc : Committed log i) :
    Settled before log i (numbersResponse (records.map (·.value))) := by
  obtain ⟨hsorted, hperm⟩ := Store.Memory.listSorted_ok hr
  obtain ⟨c, hc, hi⟩ := hc
  obtain ⟨j, hj⟩ := List.getElem?_of_mem hc
  have hl : j < log.length := (List.getElem?_eq_some_iff.mp hj).1
  refine .shown (before.length + log.length) (Nat.le_refl _) ⟨j, c, hj, hi, by omega⟩ ?_
  refine ⟨_, rfl, List.pairwise_map.mpr hsorted, ?_⟩
  rw [List.take_of_length_le (by simp), ← hm]
  exact hperm.map _

/-- A move that commits nothing keeps what is known of how far the request has come. -/
theorem Exchange.Move.standing {e e' : Exchange} {s s' : Service} (h : Exchange.Move e s none e' s')
    {before : List (Store.Record Nat)} {log : List Commit} {i : Nat}
    (hr : s.store.records = before ++ log.map (·.record)) (hs : Standing before log i e) :
    Standing before log i e' := by
  cases h with
  | rest _ => exact hs
  | refuse hp _ =>
    simp only [Standing, hp] at hs
    exact standing_timeOut fun _ => hs
  | reply hp _ ha =>
    simp only [Standing, hp] at hs
    refine standing_answer (fun h => ?_) fun _ => ⟨hs, fun h => ?_⟩
    · rw [actionOf_addition h] at ha; cases ha
    · have := status_of_answer ha; rw [h] at this; simp at this
  | expose hp _ ha hstatus =>
    simp only [Standing, hp] at hs
    refine standing_answer (fun h => ?_) fun _ => ⟨hs, by omega⟩
    rw [actionOf_addition h] at ha; cases ha
  | callPing hp _ ha =>
    simp only [Standing, hp] at hs ⊢
    refine ⟨hs, fun h => ?_⟩
    rw [actionOf_addition h] at ha; cases ha
  | reject hp _ ha hq =>
    simp only [Standing, hp] at hs
    exact standing_answer (fun _ => .refused _ hs) fun h => absurd (isAddition_of_add ha).1 h
  | callInsert hp _ ha hq =>
    simp only [Standing, hp] at hs ⊢
    obtain ⟨hadd, rfl⟩ := isAddition_of_add ha
    exact ⟨hs, hadd, hq⟩
  | insertFails hp _ _ =>
    simp only [Standing, hp] at hs
    exact standing_answer (fun _ => .insertFailed _ hs.1) fun h => absurd hs.2.1 h
  | insertLate hp _ =>
    simp only [Standing, hp] at hs
    exact standing_timeOut fun h => absurd hs.2.1 h
  | listFails hp _ _ =>
    simp only [Standing, hp] at hs
    exact standing_answer (fun _ => .listFailed _ hs.1) fun h => absurd hs.2 h
  | list hp _ hl =>
    simp only [Standing, hp] at hs
    exact standing_answer (fun _ => settled_list hr hl hs.1) fun h => absurd hs.2 h
  | listLate hp _ =>
    simp only [Standing, hp] at hs
    exact standing_timeOut fun h => absurd hs.2 h
  | pingFails hp _ =>
    simp only [Standing, hp] at hs
    exact standing_answer (fun h => absurd h hs.2) fun _ => ⟨hs.1, by simp [jsonResponse, Response.withBody]⟩
  | ping hp _ =>
    simp only [Standing, hp] at hs
    refine standing_answer (fun h => absurd h hs.2) fun _ => ⟨hs.1, ?_⟩
    simp only [jsonResponse, Response.withBody]
    split <;> decide
  | pingLate hp _ =>
    simp only [Standing, hp] at hs
    exact standing_timeOut fun _ => hs.1

/-- The move that commits leaves a request that has committed. -/
theorem Exchange.Move.standing_commit {e e' : Exchange} {s s' : Service} {record : Store.Record Nat}
    (h : Exchange.Move e s (some record) e' s') {before : List (Store.Record Nat)} {log : List Commit} {i : Nat}
    (hs : Standing before log i e) : Standing before (log ++ [⟨i, record⟩]) i e' := by
  cases h with
  | commit hp _ _ =>
    simp only [Standing, hp] at hs
    exact ⟨⟨_, List.mem_append_right _ (List.mem_singleton.mpr rfl), rfl⟩, hs.2.1⟩

/-! ## All moves -/

/-- The store holds what it held and what the log has, one record for each request that
    has committed, and every request stands as the log says. -/
structure Linear (s₀ : Service) (arrivals : List Arrival) (r : Run) (log : List Commit) : Prop where
  requests : r.exchanges.map (·.request) = arrivals.map (·.request)
  records : r.service.store.records = s₀.store.records ++ log.map (·.record)
  once : (log.map (·.place)).Nodup
  asked : ∀ c ∈ log, ∃ a, arrivals[c.place]? = some a ∧ IsAddition a.request ∧
    numberOf a.request.target.query = .ok c.record.value
  standing : ∀ i e, r.exchanges[i]? = some e → Standing s₀.store.records log i e

theorem linear_opening (s : Service) (arrivals : List Arrival) :
    Linear s arrivals (Run.opening s arrivals) [] := by
  refine ⟨by simp [Run.opening, Arrival.exchange], by simp [Run.opening], by simp, by simp, fun i e he => ?_⟩
  obtain ⟨a, _, rfl⟩ := List.mem_map.mp (List.mem_of_getElem? he)
  rintro ⟨c, hc, _⟩
  cases hc

/-- The request at a place is the one that arrived there. -/
theorem Linear.request_eq {s₀ : Service} {arrivals : List Arrival} {r : Run} {log : List Commit}
    (h : Linear s₀ arrivals r log) {i : Nat} {e : Exchange} (he : r.exchanges[i]? = some e) :
    ∃ a, arrivals[i]? = some a ∧ a.request = e.request := by
  have hm : (arrivals.map (·.request))[i]? = some e.request := by
    rw [← h.requests, List.getElem?_map, he]; rfl
  rw [List.getElem?_map] at hm
  exact Option.map_eq_some_iff.mp hm

theorem getElem?_set_cases {α : Type} {l : List α} {i j : Nat} {a x : α} (h : (l.set i a)[j]? = some x) :
    j = i ∧ x = a ∨ i ≠ j ∧ l[j]? = some x := by
  rw [List.getElem?_set] at h
  split at h
  · rename_i hij
    split at h
    · cases h
      exact Or.inl ⟨hij.symm, rfl⟩
    · cases h
  · rename_i hij
    exact Or.inr ⟨hij, h⟩

theorem Exchange.Move.requests {e e' : Exchange} {s s' : Service} {c : Option (Store.Record Nat)} {es : List Exchange}
    {i : Nat} (h : Exchange.Move e s c e' s') (he : es[i]? = some e) :
    (es.set i e').map (·.request) = es.map (·.request) := by
  obtain ⟨hi, rfl⟩ := List.getElem?_eq_some_iff.mp he
  have hlength : i < (es.map (·.request)).length := by simpa using hi
  have hsame : es[i].request = (es.map (·.request))[i] := by simp
  rw [List.map_set, h.request_eq.1, hsame, List.set_getElem_self hlength]

theorem Linear.step {s₀ : Service} {arrivals : List Arrival} {r : Run} {log : List Commit}
    (h : Linear s₀ arrivals r log) (i : Nat) :
    Linear s₀ arrivals (r.step i) (log ++ (r.commit? i).toList) := by
  obtain ⟨-, hstep, hcommit⟩ | ⟨e, e', s', c, he, hm, hstep, hcommit⟩ := r.step_cases i
  · rw [hstep, hcommit]; simpa using h
  have hrequests := (hm.requests he).trans h.requests
  rw [hstep, hcommit]
  cases c with
  | none =>
    simp only [Option.map_none, Option.toList_none, List.append_nil]
    refine ⟨hrequests, by simpa [h.records] using hm.records, h.once, h.asked, fun j x hx => ?_⟩
    obtain ⟨rfl, rfl⟩ | ⟨-, hx⟩ := getElem?_set_cases hx
    · exact hm.standing h.records (h.standing j e he)
    · exact h.standing j x hx
  | some record =>
    obtain ⟨hfresh, hadd, hnumber⟩ := hm.commits (h.standing i e he)
    simp only [Option.map_some, Option.toList_some]
    refine ⟨hrequests, by simpa [h.records] using hm.records, ?_, ?_, fun j x hx => ?_⟩
    · rw [List.map_append]
      refine List.nodup_append.mpr ⟨h.once, by simp, fun p hp q hq hpq => hfresh ?_⟩
      obtain ⟨d, hd, rfl⟩ := List.mem_map.mp hp
      exact ⟨d, hd, by rw [hpq]; simpa using hq⟩
    · intro d hd
      rcases List.mem_append.mp hd with hd | hd
      · exact h.asked d hd
      · rw [List.mem_singleton.mp hd]
        obtain ⟨a, ha, hreq⟩ := h.request_eq he
        exact ⟨a, ha, by rw [hreq]; exact ⟨hadd, hnumber⟩⟩
    · obtain ⟨rfl, rfl⟩ | ⟨hij, hx⟩ := getElem?_set_cases hx
      · exact hm.standing_commit (h.standing j e he)
      · exact (h.standing j x hx).append hij

theorem Linear.steps {s₀ : Service} {arrivals : List Arrival} :
    ∀ (schedule : List Nat) {r : Run} {log : List Commit}, Linear s₀ arrivals r log →
      Linear s₀ arrivals (r.steps schedule) (log ++ r.commits schedule) := by
  intro schedule
  induction schedule with
  | nil => intro r log h; simpa [Run.commits, Run.steps] using h
  | cons i rest ih =>
    intro r log h
    have := ih (h.step i)
    rw [List.append_assoc] at this
    exact this

theorem linear_run (s : Service) (arrivals : List Arrival) (schedule : List Nat) :
    Linear s arrivals ((Run.opening s arrivals).steps schedule) ((Run.opening s arrivals).commits schedule) := by
  simpa using (linear_opening s arrivals).steps schedule

/-- The records only grow: what the store holds stays the first part of what it holds. -/
theorem records_first (s : Service) (arrivals : List Arrival) (before after : List Nat) :
    ((Run.opening s arrivals).steps before).service.store.records <+:
      ((Run.opening s arrivals).steps (before ++ after)).service.store.records := by
  rw [(linear_run s arrivals before).records, (linear_run s arrivals (before ++ after)).records,
    Run.commits_append, List.map_append, ← List.append_assoc]
  exact List.prefix_append _ _

/-! ## Answers -/

/-- The request at place `i` is one to add a number, and has this answer. -/
def AnswersAddition (arrivals : List Arrival) (r : Run) (i : Nat) (response : Response) : Prop :=
  (∃ a, arrivals[i]? = some a ∧ IsAddition a.request) ∧ r.answer? i = some response

theorem Linear.shown {s₀ : Service} {arrivals : List Arrival} {r : Run} {log : List Commit}
    (h : Linear s₀ arrivals r log) {i : Nat} {response : Response}
    (ha : AnswersAddition arrivals r i response) (hs : response.status = 200) :
    ∃ k, k ≤ r.service.store.records.length ∧ Covers s₀.store.records log i k ∧
      Shows (r.service.store.records.take k) response := by
  obtain ⟨⟨a, hi, hadd⟩, hr⟩ := ha
  obtain ⟨e, he, hans⟩ := Option.bind_eq_some_iff.mp hr
  obtain ⟨b, hb, hreq⟩ := h.request_eq he
  rw [hi] at hb
  cases hb
  rw [hreq] at hadd
  have hst := h.standing i e he
  unfold Exchange.answer? at hans
  split at hans
  · rename_i hp
    cases hans
    simp only [Standing, hp] at hst
    cases hst.1 hadd with
    | shown k hk hc hshow => exact ⟨k, by simpa [h.records] using hk, hc, by rw [h.records]; exact hshow⟩
    | late hl => rw [hl] at hs; cases hs
    | _ => cases hs
  · cases hans

theorem Shows.perm {records : List (Store.Record Nat)} {values : List Int32}
    (h : Shows records (numbersResponse values)) : values.Perm (records.map (·.value)) := by
  obtain ⟨w, hw, _, hperm⟩ := h
  rw [numbersResponse_inj hw]
  exact hperm

theorem shows_subperm {records : List (Store.Record Nat)} {v w : List Int32} {j k : Nat}
    (hv : Shows (records.take j) (numbersResponse v)) (hw : Shows (records.take k) (numbersResponse w))
    (h : j ≤ k) : v.Subperm w := by
  have hs : ((records.take j).map (·.value)).Subperm ((records.take k).map (·.value)) :=
    ((List.take_sublist_take_left h).map _).subperm
  exact hv.perm.subperm.trans (hs.trans hw.perm.symm.subperm)

/-- What a request covers that had not started at some point is more than the store held then. -/
theorem Covers.lt_of_arriving {before : List (Store.Record Nat)} {log more : List Commit} {i k : Nat}
    (h : Covers before (log ++ more) i k) (hn : ¬ Committed log i) : before.length + log.length < k := by
  obtain ⟨j, c, hj, hc, hk⟩ := h
  have hl : log.length ≤ j := by
    by_contra hlt
    rw [List.getElem?_append_left (by omega)] at hj
    exact hn ⟨c, List.mem_of_getElem? hj, hc⟩
  omega

/-- Overlapping requests to add numbers, in any order of steps. The store holds what it
    held and one record for each committed insert, in the order of the commits. An answer
    200 shows the first so many records in ascending order, the own record and with it
    all before it. Of two such answers one is contained in the other, and what the store
    held before a request started is in its answer. -/
theorem additions_linear (s : Service) (arrivals : List Arrival) (schedule : List Nat) :
    let r := (Run.opening s arrivals).steps schedule
    let log := (Run.opening s arrivals).commits schedule
    let records := r.service.store.records
    (records = s.store.records ++ log.map (·.record) ∧ (log.map (·.place)).Nodup ∧
      ∀ c ∈ log, ∃ a, arrivals[c.place]? = some a ∧ IsAddition a.request ∧
        numberOf a.request.target.query = .ok c.record.value) ∧
    (∀ i response, AnswersAddition arrivals r i response → response.status = 200 →
      ∃ k values, response = numbersResponse values ∧ values.Pairwise (· ≤ ·) ∧
        values.Perm ((records.take k).map (·.value)) ∧ k ≤ records.length ∧
        ∃ j c, log[j]? = some c ∧ c.place = i ∧ s.store.records.length + j < k) ∧
    (∀ i j v w, AnswersAddition arrivals r i (numbersResponse v) →
      AnswersAddition arrivals r j (numbersResponse w) → v.Subperm w ∨ w.Subperm v) ∧
    (∀ before after i e values, schedule = before ++ after →
      ((Run.opening s arrivals).steps before).exchanges[i]? = some e → e.phase = .arriving →
      AnswersAddition arrivals r i (numbersResponse values) →
      (((Run.opening s arrivals).steps before).service.store.records.map (·.value)).Subperm values) := by
  intro r log records
  have h : Linear s arrivals r log := linear_run s arrivals schedule
  refine ⟨⟨h.records, h.once, h.asked⟩, ?_, ?_, ?_⟩
  · intro i response ha hs
    obtain ⟨k, hk, hc, values, hv, hsorted, hperm⟩ := h.shown ha hs
    exact ⟨k, values, hv, hsorted, hperm, hk, hc⟩
  · intro i j v w hi hj
    obtain ⟨k, _, _, hv⟩ := h.shown hi rfl
    obtain ⟨l, _, _, hw⟩ := h.shown hj rfl
    rcases Nat.le_total k l with hkl | hlk
    · exact Or.inl (shows_subperm hv hw hkl)
    · exact Or.inr (shows_subperm hw hv hlk)
  · intro before after i e values hsplit he hp ha
    have h₀ := linear_run s arrivals before
    have hn : ¬ Committed ((Run.opening s arrivals).commits before) i := by
      have := h₀.standing i e he
      simpa only [Standing, hp] using this
    obtain ⟨k, _, hc, hv⟩ := h.shown ha rfl
    subst hsplit
    have hlog : log = (Run.opening s arrivals).commits before ++
        ((Run.opening s arrivals).steps before).commits after := Run.commits_append _ _ _
    rw [hlog] at hc
    have hk := hc.lt_of_arriving hn
    have hfirst : ((Run.opening s arrivals).steps before).service.store.records <+: records.take k :=
      List.prefix_take_iff.mpr ⟨records_first s arrivals before after, by rw [h₀.records]; simp; omega⟩
    exact (hfirst.sublist.map _).subperm.trans hv.perm.symm.subperm

def additionOf (number : String) : Request :=
  { method := "POST", target := ⟨"/numbers", some ("number=" ++ number)⟩ }

/-- Two requests, the second of which arrives between the insert and the read of the first. -/
def twoAdditions : List Arrival := [⟨additionOf "5", 0, 100⟩, ⟨additionOf "3", 1, 100⟩]

def twoAnswered : Run := (Run.opening {} twoAdditions).steps [0, 0, 1, 0, 1, 1]

theorem two_additions_comparable :
    AnswersAddition twoAdditions twoAnswered 0 (numbersResponse [5]) ∧
      AnswersAddition twoAdditions twoAnswered 1 (numbersResponse [3, 5]) ∧
      (List.Subperm [(5 : Int32)] [3, 5] ∨ List.Subperm [(3 : Int32), 5] [5]) := by
  have h0 : AnswersAddition twoAdditions twoAnswered 0 (numbersResponse [5]) :=
    ⟨⟨⟨additionOf "5", 0, 100⟩, rfl, by decide⟩, by cbv⟩
  have h1 : AnswersAddition twoAdditions twoAnswered 1 (numbersResponse [3, 5]) :=
    ⟨⟨⟨additionOf "3", 1, 100⟩, rfl, by decide⟩, by cbv⟩
  exact ⟨h0, h1, (additions_linear {} twoAdditions [0, 0, 1, 0, 1, 1]).2.2.1 0 1 [5] [3, 5] h0 h1⟩

end NumberRegistry.Api
