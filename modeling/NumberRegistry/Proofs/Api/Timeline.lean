/-
  NumberRegistry.Proofs.Api.Timeline — a run under the clock, step by step.

  The clock gives each step to the exchange whose time comes first (`Run.turns`), and the
  steps it gives are the run that ends with every answer (`finish_turns`). What a step does
  that can be told from outside is an event: a call of the store is made, a record is
  stored, the request is answered. The log of a run (`Run.log`) has the events in their
  order, each with its time and the place of its request.

  Proved, for every service to start from and all requests:
  - `turns_sorted`: the clock never goes back.
  - `Kept.history`: what the moves of a request keep true of it and of what it has done so
    far is true of its answer and of all it did. Other requests have no part in that.
  - `records_log`: at every moment the store holds what it held and what was stored by then.
  - `plans_log`: the calls of one kind take the entries of the script in the order they
    are made.
-/
import NumberRegistry.Proofs.Api.Commits
import NumberRegistry.Proofs.Api.Completion
import NumberRegistry.Store.Operation

namespace NumberRegistry.Api

open Http

/-- A step that the clock lets an exchange take. -/
structure Turn where
  place : Nat
  time : Nat
  deriving DecidableEq, Repr

inductive Event where
  /-- A call of the store is made; how long it takes and whether it fails is its plan. -/
  | called (operation : Store.Operation) (plan : Store.Plan)
  | stored (record : Store.Record Nat)
  | answered (response : Response)

structure Entry where
  place : Nat
  time : Nat
  event : Event

/-- The event with which an exchange comes to a phase. -/
def Phase.event? (s : Service) : Phase → Option Event
  | .arriving => none
  | .inserting value _ _ => some (.called (.insert value) s.script.takeInsert.1)
  | .listing _ _ => some (.called .list s.script.takeList.1)
  | .pinging _ _ => some (.called .ping s.script.takePing.1)
  | .answered _ response => some (.answered response)

/-- What a step does that stores this record, if any, and makes this of the exchange. -/
def Exchange.eventsTo (e : Exchange) (s : Service) (c : Option (Store.Record Nat)) (e' : Exchange) : List Event :=
  if e.answer?.isSome then [] else c.toList.map .stored ++ (e'.phase.event? s).toList

namespace Run

/-- The steps that the clock lets exchanges take, of at most `n`. -/
def turnsWithin : (n : Nat) → Run → List Turn
  | 0, _ => []
  | n + 1, r =>
    match earliest 0 r.exchanges with
    | none => []
    | some (i, t) => ⟨i, t⟩ :: turnsWithin n (r.step i)

def turns (r : Run) : List Turn := turnsWithin r.rank r

def play (r : Run) (turns : List Turn) : Run := r.steps (turns.map (·.place))

/-- What the exchange at a place does when it takes its next step. -/
def entries (r : Run) (turn : Turn) : List Entry :=
  (r.exchanges[turn.place]?.elim [] fun e => e.eventsTo r.service (e.commit? r.service) (e.advance r.service).1).map
    (⟨turn.place, turn.time, ·⟩)

def log (r : Run) : List Turn → List Entry
  | [] => []
  | turn :: rest => r.entries turn ++ (r.step turn.place).log rest

end Run

/-- What the request at place `i` did and when, by a log. -/
def happened (i : Nat) (log : List Entry) : List (Nat × Event) :=
  (log.filter (·.place = i)).map fun x => (x.time, x.event)

theorem happened_append (i : Nat) (log more : List Entry) :
    happened i (log ++ more) = happened i log ++ happened i more := by
  simp [happened]

theorem happened_turn (i : Nat) (turn : Turn) (events : List Event) :
    happened i (events.map (⟨turn.place, turn.time, ·⟩)) =
      if turn.place = i then events.map (turn.time, ·) else [] := by
  by_cases h : turn.place = i <;> simp [happened, h, List.filter_map, Function.comp_def]

/-- What the request at place `i` does under the clock, and when. -/
def Run.history (r : Run) (i : Nat) : List (Nat × Event) := happened i (r.log r.turns)

/-! ## The clock -/

/-- A call that is made at some time before the deadline is not over before. -/
theorem Exchange.le_callEnd {e : Exchange} {t : Nat} (h : t ≤ e.due) (delay : Store.Delay) :
    t ≤ e.callEnd (delay.map (t + ·)) := by
  cases delay with
  | none => exact h
  | some d => simp only [callEnd, Option.map_some, Option.elim_some]; omega

/-- After a step an exchange goes on no earlier than at the time of the step. -/
theorem Exchange.Move.nextTime_le {e e' : Exchange} {s s' : Service} {c : Option (Store.Record Nat)}
    (h : Exchange.Move e s c e' s') {t u : Nat} (ht : e.nextTime = some t) (hu : e'.nextTime = some u) : t ≤ u := by
  cases h with
  | rest hp => simp [nextTime, hp] at ht
  | callPing hp _ _ | callInsert hp _ _ _ =>
    simp only [nextTime, hp, Option.some.injEq] at ht hu
    subst ht hu
    exact Exchange.le_callEnd (e := { e with phase := _ }) (Nat.le_add_right _ _) _
  | commit hp hlt _ =>
    simp only [nextTime, hp, Option.some.injEq, callEnd, Option.elim_some] at ht hu
    rw [Nat.min_eq_right (Nat.le_of_lt hlt)] at ht
    subst ht hu
    exact Exchange.le_callEnd (e := { e with phase := _ }) (Nat.le_of_lt hlt) _
  | _ => simp [nextTime, answer, timeOut] at hu

namespace Run

/-- No exchange goes on before `t`. -/
def From (t : Nat) (r : Run) : Prop := ∀ e ∈ r.exchanges, ∀ u, e.nextTime = some u → t ≤ u

theorem earliest_le {i j t : Nat} {es : List Exchange} (h : earliest i es = some (j, t)) :
    ∀ e ∈ es, ∀ u, e.nextTime = some u → t ≤ u := by
  induction es generalizing i j t with
  | nil => simp
  | cons e es ih =>
    intro x hx u hu
    simp only [earliest] at h
    split at h
    · rename_i he
      rcases List.mem_cons.mp hx with rfl | hx
      · rw [he] at hu; cases hu
      · exact ih h x hx u hu
    · rename_i v he hnone
      cases h
      rcases List.mem_cons.mp hx with rfl | hx
      · rw [he] at hu; cases hu; exact Nat.le_refl _
      · rw [Exchange.nextTime_eq_none.mpr (earliest_none hnone x hx)] at hu; cases hu
    · rename_i v k w he hsome
      split at h <;> cases h <;> rcases List.mem_cons.mp hx with rfl | hx
      · rw [he] at hu; cases hu; exact Nat.le_refl _
      · have := ih hsome x hx u hu; omega
      · rw [he] at hu; cases hu; omega
      · exact ih hsome x hx u hu

/-- A step that is taken when its time comes leaves none for an earlier time. -/
theorem From.step {r : Run} {t i : Nat} (h : r.From t) {e : Exchange} (he : r.exchanges[i]? = some e)
    (ht : e.nextTime = some t) : (r.step i).From t := by
  obtain ⟨hnone, -⟩ | ⟨x, e', s', c, hx, hm, hstep, -⟩ := r.step_cases i
  · rw [hnone] at he; cases he
  rw [he] at hx
  cases hx
  rw [hstep]
  intro y hy u hu
  obtain hy | rfl := List.mem_or_eq_of_mem_set hy
  · exact h y hy u hu
  · exact hm.nextTime_le ht hu

theorem turnsWithin_sorted (n : Nat) {r : Run} {t : Nat} (h : r.From t) :
    (∀ turn ∈ turnsWithin n r, t ≤ turn.time) ∧ (turnsWithin n r).Pairwise (·.time ≤ ·.time) := by
  induction n generalizing r t with
  | zero => simp [turnsWithin]
  | succ n ih =>
    simp only [turnsWithin]
    split
    · simp
    · rename_i j u hfirst
      obtain ⟨i, e, rfl, he, hu⟩ := earliest_some hfirst
      rw [Nat.zero_add] at *
      have hstep : (r.step i).From u := From.step (earliest_le hfirst) he hu
      have htu : t ≤ u := h e (List.mem_of_getElem? he) u hu
      obtain ⟨hle, hsorted⟩ := ih hstep
      refine ⟨fun turn hturn => ?_, List.pairwise_cons.mpr ⟨hle, hsorted⟩⟩
      rcases List.mem_cons.mp hturn with rfl | hturn
      · exact htu
      · exact Nat.le_trans htu (hle turn hturn)

/-- The clock never goes back. -/
theorem turns_sorted (r : Run) : r.turns.Pairwise (·.time ≤ ·.time) :=
  (turnsWithin_sorted r.rank fun _ _ _ _ => Nat.zero_le _).2

theorem finishWithin_turns (n : Nat) (r : Run) : finishWithin n r = r.play (turnsWithin n r) := by
  induction n generalizing r with
  | zero => rfl
  | succ n ih =>
    simp only [finishWithin, turnsWithin]
    cases earliest 0 r.exchanges with
    | none => rfl
    | some first => exact ih (r.step first.1)

/-- The steps that the clock gives are the whole run. -/
theorem finish_turns (r : Run) : r.finish = r.play r.turns := finishWithin_turns r.rank r

/-! ## The log -/

/-- The entries of a turn, for the move that it is. -/
theorem entries_cases (r : Run) (turn : Turn) :
    (r.step turn.place = r ∧ r.entries turn = []) ∨
      ∃ e e' s' c, r.exchanges[turn.place]? = some e ∧ Exchange.Move e r.service c e' s' ∧
        r.step turn.place = ⟨s', r.exchanges.set turn.place e'⟩ ∧
        r.entries turn = (e.eventsTo r.service c e').map (⟨turn.place, turn.time, ·⟩) := by
  cases h : r.exchanges[turn.place]? with
  | none => exact Or.inl ⟨by simp [step, h], by simp [entries, h]⟩
  | some e =>
    exact Or.inr ⟨e, _, _, _, rfl, Exchange.advance_move e r.service, by simp [step, h], by simp [entries, h]⟩

theorem log_append (r : Run) (before after : List Turn) :
    r.log (before ++ after) = r.log before ++ (r.play before).log after := by
  induction before generalizing r with
  | nil => rfl
  | cons turn before ih =>
    simp only [List.cons_append, log, ih, List.append_assoc]
    rfl

end Run

/-! ## One request -/

/-- The exchange is that of this arrival. -/
structure Stems (e : Exchange) (a : Arrival) : Prop where
  request : e.request = a.request
  arrival : e.arrival = a.time
  deadline : e.deadline = a.deadline

theorem Stems.due {e : Exchange} {a : Arrival} (h : Stems e a) : e.due = a.time + a.deadline := by
  rw [Exchange.due, h.arrival, h.deadline]

theorem Stems.move {e e' : Exchange} {s s' : Service} {c : Option (Store.Record Nat)} {a : Arrival}
    (h : Stems e a) (hm : Exchange.Move e s c e' s') : Stems e' a :=
  ⟨hm.request_eq.1.trans h.request, hm.request_eq.2.1.trans h.arrival, hm.request_eq.2.2.trans h.deadline⟩

/-- No move turns a switch of the store. -/
theorem Exchange.Move.failures {e e' : Exchange} {s s' : Service} {c : Option (Store.Record Nat)}
    (h : Exchange.Move e s c e' s') : s'.store.failures = s.store.failures := by
  cases h with
  | commit _ _ _ => simp
  | ping _ _ => simp
  | _ => rfl

/-- What every move of a request, made in its time, keeps true of the request and of what
    it has done. -/
def Kept (a : Arrival) (failures : Store.Failures) (P : Exchange → List (Nat × Event) → Prop) : Prop :=
  ∀ {e e' : Exchange} {s s' : Service} {c : Option (Store.Record Nat)} {h : List (Nat × Event)} {t : Nat},
    Exchange.Move e s c e' s' → Stems e a → s.store.failures = failures → e.nextTime = some t → P e h →
      P e' (h ++ (e.eventsTo s c e').map (t, ·))

/-- `P` holds of the request at a place, which arrived as `a`, and of what it has done. -/
structure Tracked (a : Arrival) (failures : Store.Failures) (P : Exchange → List (Nat × Event) → Prop) (r : Run)
    (i : Nat) (h : List (Nat × Event)) : Prop where
  failures_eq : r.service.store.failures = failures
  exchange : ∃ e, r.exchanges[i]? = some e ∧ Stems e a ∧ P e h

section

variable {a : Arrival} {failures : Store.Failures} {P : Exchange → List (Nat × Event) → Prop} {i : Nat}

/-- The turn of the request keeps what its moves keep, and that of another leaves it alone. -/
theorem Tracked.step (hk : Kept a failures P) {r : Run} {h : List (Nat × Event)} (ht : Tracked a failures P r i h)
    {place time : Nat} (hfirst : Run.earliest 0 r.exchanges = some (place, time)) :
    Tracked a failures P (r.step place) i (h ++ happened i (r.entries ⟨place, time⟩)) := by
  obtain ⟨hf, x, hx, hax, hc⟩ := ht
  obtain ⟨k, e, rfl, he, htime⟩ := Run.earliest_some hfirst
  rw [Nat.zero_add] at *
  obtain ⟨hstep, hnone⟩ | ⟨y, e', s', c, hy, hm, hstep, hentries⟩ := r.entries_cases ⟨k, time⟩
  · rw [hstep, hnone]
    exact ⟨hf, x, hx, hax, by simpa [happened] using hc⟩
  rw [he] at hy
  cases hy
  rw [hstep, hentries, happened_turn]
  refine ⟨hm.failures.trans hf, ?_⟩
  by_cases hi : k = i
  · subst hi
    rw [he] at hx
    cases hx
    have hlt := (List.getElem?_eq_some_iff.mp he).1
    exact ⟨e', by simp [hlt], hax.move hm, by simpa using hk hm hax hf htime hc⟩
  · exact ⟨x, by simp [List.getElem?_set_ne hi, hx], hax, by simpa [hi] using hc⟩

theorem Tracked.turns (hk : Kept a failures P) (m : Nat) {r : Run} {h : List (Nat × Event)}
    (ht : Tracked a failures P r i h) :
    Tracked a failures P (r.play (Run.turnsWithin m r)) i (h ++ happened i (r.log (Run.turnsWithin m r))) := by
  induction m generalizing r h with
  | zero => simpa [Run.turnsWithin, Run.play, Run.steps, Run.log, happened] using ht
  | succ m ih =>
    simp only [Run.turnsWithin]
    split
    · simpa [Run.play, Run.steps, Run.log, happened] using ht
    · rename_i place time hfirst
      have := ih (ht.step hk hfirst)
      rw [List.append_assoc, ← happened_append] at this
      exact this

/-- What a request's moves keep holds in the end, of its answer and of all it did. -/
theorem Kept.history {s : Service} (hk : Kept a s.store.failures P) {arrivals : List Arrival}
    (ha : arrivals[i]? = some a) (h : P a.exchange []) :
    ∃ e time response, (Run.opening s arrivals).finish.exchanges[i]? = some e ∧ e.phase = .answered time response ∧
      P e ((Run.opening s arrivals).history i) := by
  have hopening : Tracked a s.store.failures P (Run.opening s arrivals) i [] :=
    ⟨rfl, a.exchange, by simp [Run.opening, ha], ⟨rfl, rfl, rfl⟩, h⟩
  obtain ⟨-, e, he, -, hP⟩ := hopening.turns hk (Run.opening s arrivals).rank
  have hfinish : (Run.opening s arrivals).finish.exchanges[i]? = some e := by
    rw [Run.finish_turns]; exact he
  have hanswered := Run.finish_answered _ e (List.mem_of_getElem? hfinish)
  simp only [Exchange.answer?] at hanswered
  split at hanswered
  · rename_i time response hp
    exact ⟨e, time, response, hfinish, hp, hP⟩
  · cases hanswered

end

/-! ## What was stored -/

/-- The record that is stored with an event. -/
def Event.stored? : Event → Option (Store.Record Nat)
  | .stored record => some record
  | _ => none

/-- The records that were stored, by a log. -/
def stored (log : List Entry) : List (Store.Record Nat) := log.filterMap (·.event.stored?)

theorem stored_append (log more : List Entry) : stored (log ++ more) = stored log ++ stored more :=
  List.filterMap_append

theorem Phase.not_stored (s : Service) (p : Phase) : (p.event? s).toList.filterMap Event.stored? = [] := by
  cases p <;> rfl

/-- The events of a move have the record that it stores. -/
theorem Exchange.Move.stored {e e' : Exchange} {s s' : Service} {c : Option (Store.Record Nat)}
    (h : Exchange.Move e s c e' s') : (e.eventsTo s c e').filterMap Event.stored? = c.toList := by
  have hc : (c.toList.map Event.stored).filterMap Event.stored? = c.toList := by
    cases c <;> rfl
  unfold eventsTo
  split
  · rename_i ha
    cases h with
    | commit hp _ _ => simp [answer?, hp] at ha
    | _ => rfl
  · rw [List.filterMap_append, hc, Phase.not_stored, List.append_nil]

/-- At every moment the store holds what it held and what was stored by then. -/
theorem records_log (r : Run) (turns : List Turn) :
    (r.play turns).service.store.records = r.service.store.records ++ stored (r.log turns) := by
  induction turns generalizing r with
  | nil => simp [Run.play, Run.steps, Run.log, stored]
  | cons turn rest ih =>
    change ((r.step turn.place).play rest).service.store.records = _
    rw [ih, Run.log, stored_append, ← List.append_assoc]
    congr 1
    obtain ⟨hstep, hnone⟩ | ⟨e, e', s', c, -, hm, hstep, hentries⟩ := r.entries_cases turn
    · simp [hstep, hnone, stored]
    · rw [hstep, hentries, hm.records, ← hm.stored, Api.stored, List.filterMap_map]
      rfl

/-! ## What was called -/

/-- The plan of a call of this kind. -/
def Event.plan? (kind : Store.Kind) : Event → Option Store.Plan
  | .called operation plan => if operation.kind = kind then some plan else none
  | _ => none

/-- The plans of the calls of a kind that were made, by a log. -/
def plans (kind : Store.Kind) (log : List Entry) : List Store.Plan := log.filterMap (·.event.plan? kind)

/-- From these plans of a kind, which a script has from now on, so many have been taken. -/
inductive Taken (plans plans' : Nat → Store.Plan) : List Store.Plan → Prop
  | none (h : ∀ k, plans' k = plans k) : Taken plans plans' []
  | next (h : ∀ k, plans' k = plans (k + 1)) : Taken plans plans' [plans 0]

theorem taken_called {script script' : Store.Script} (operation : Store.Operation)
    (h : ∀ kind k, script'.planOf kind k = script.planOf kind (if kind = operation.kind then k + 1 else k))
    (kind : Store.Kind) :
    Taken (script.planOf kind) (script'.planOf kind)
      ([Event.called operation (script.planOf operation.kind 0)].filterMap (Event.plan? kind)) := by
  by_cases hk : kind = operation.kind
  · subst hk
    simp only [Event.plan?, List.filterMap_cons, List.filterMap_nil, if_true]
    exact .next fun k => by simpa using h operation.kind k
  · simp only [Event.plan?, List.filterMap_cons, List.filterMap_nil, Ne.symm hk, if_false]
    exact .none fun k => by simpa [hk] using h kind k

/-- A move makes one call at most, by the script's next plan for its kind. -/
theorem Exchange.Move.taken {e e' : Exchange} {s s' : Service} {c : Option (Store.Record Nat)}
    (h : Exchange.Move e s c e' s') (kind : Store.Kind) :
    Taken (s.script.planOf kind) (s'.script.planOf kind) ((e.eventsTo s c e').filterMap (Event.plan? kind)) := by
  have hanswer : ∀ time response, (e.eventsTo s none (e.answer time response)).filterMap (Event.plan? kind) = [] := by
    intro time response
    unfold eventsTo
    split <;> rfl
  cases h with
  | rest hp =>
    simp only [eventsTo, answer?, hp]
    exact .none fun _ => rfl
  | callPing hp _ _ =>
    simp only [eventsTo, answer?, hp]
    exact taken_called .ping s.script.planOf_takePing kind
  | callInsert hp _ _ _ =>
    simp only [eventsTo, answer?, hp]
    exact taken_called (.insert _) s.script.planOf_takeInsert kind
  | commit hp _ _ =>
    simp only [eventsTo, answer?, hp]
    exact taken_called .list s.script.planOf_takeList kind
  | _ => exact hanswer _ _ ▸ .none fun _ => rfl

/-- Calls of a kind take the entries that the script has for it, in the order they are made. -/
theorem plans_log (r : Run) (turns : List Turn) (kind : Store.Kind) :
    ∃ n, plans kind (r.log turns) = (List.range n).map (r.service.script.planOf kind) := by
  induction turns generalizing r with
  | nil => exact ⟨0, rfl⟩
  | cons turn rest ih =>
    obtain ⟨n, hn⟩ := ih (r.step turn.place)
    have hlog : plans kind (r.log (turn :: rest)) =
        plans kind (r.entries turn) ++ (List.range n).map ((r.step turn.place).service.script.planOf kind) := by
      rw [← hn]
      exact List.filterMap_append
    obtain ⟨hstep, hnone⟩ | ⟨e, e', s', c, -, hm, hstep, hentries⟩ := r.entries_cases turn
    · exact ⟨n, by rw [hlog, hnone, hstep]; rfl⟩
    have hplans : plans kind (r.entries turn) = (e.eventsTo r.service c e').filterMap (Event.plan? kind) := by
      rw [hentries, plans, List.filterMap_map]
      rfl
    have htaken := hm.taken kind
    rw [hlog, hplans, hstep]
    generalize (e.eventsTo r.service c e').filterMap (Event.plan? kind) = taken at htaken
    cases htaken with
    | none hsame => exact ⟨n, List.map_congr_left fun k _ => hsame k⟩
    | next hnext =>
      refine ⟨n + 1, ?_⟩
      rw [List.range_succ_eq_map, List.map_cons, List.map_map]
      exact congrArg _ (List.map_congr_left fun k _ => hnext k)

end NumberRegistry.Api
