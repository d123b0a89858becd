/-
  NumberRegistry.Proofs.Api.Addition — an addition that has the service to itself.

  When no other request comes between and the store's calls return in time, a request to
  add a number is answered as the store answers the number, and leaves the store as a
  direct call would (`finish_addition`). A failed insert is the only call; after one that
  succeeds the read has to return in time as well (`Service.InTime`).
-/
import NumberRegistry.Api.Add
import NumberRegistry.Proofs.Api.Bodies
import NumberRegistry.Proofs.Api.Completion

namespace NumberRegistry.Api

open Http

/-- The service's store, to be called directly. -/
def Service.scripted (s : Service) : Store.Scripted := ⟨s.store, s.script⟩

/-- The answer that says what adding a number came to. -/
def answerTo : Except Error (List Int32) → Response
  | .ok values => numbersResponse values
  | .error e => e.response

/-- The store's calls for an addition return before so many milliseconds are over. -/
def Service.InTime (s : Service) (deadline : Nat) (value : Int32) : Prop :=
  let inserted := NumberStore.insert s.scripted value
  ∃ t, s.script.takeInsert.1.delay = some t ∧ t < deadline ∧
    (inserted.1.isOk → ∃ u, inserted.2.script.takeList.1.delay = some u ∧ t + u < deadline)

namespace Run

/-- A single exchange that is not answered yet takes its next step. -/
theorem finishWithin_single {e : Exchange} (h : e.answer? = none) (n : Nat) (s : Service) :
    finishWithin (n + 1) ⟨s, [e]⟩ = finishWithin n ⟨(e.advance s).2, [(e.advance s).1]⟩ := by
  cases ht : e.nextTime with
  | none => have := Exchange.nextTime_eq_none.mp ht; rw [h] at this; cases this
  | some t => simp [finishWithin, earliest, ht, step]

theorem finishWithin_of_answered {e : Exchange} (h : e.answer?.isSome) (n : Nat) (s : Service) :
    finishWithin n ⟨s, [e]⟩ = ⟨s, [e]⟩ := by
  cases n with
  | zero => rfl
  | succ n => simp [finishWithin, earliest, Exchange.nextTime_eq_none.mpr h]

end Run

/-! ## One store call after the other -/

namespace Exchange

open Store (Scripted)

variable {e : Exchange} {s : Service} {store : Scripted} {value : Int32}

theorem start_addition (hadd : IsAddition e.request) (hq : numberOf e.request.target.query = .ok value) :
    e.start s =
      ({ e with phase := .inserting value (s.script.takeInsert.1.delay.map (e.arrival + ·)) s.script.takeInsert.1.failure },
        { s with script := s.script.takeInsert.2 }) := by
  simp [start, actionOf_addition hadd, hq]

theorem advance_inserting {t : Nat} {failure : Option Store.Error}
    (hp : e.phase = .inserting value (some t) failure) (ht : t < e.due) : e.advance s = e.insert t value failure s := by
  simp only [advance, hp, ht, if_true]

theorem advance_listing {t : Nat} {failure : Option Store.Error} (hp : e.phase = .listing (some t) failure)
    (ht : t < e.due) : e.advance s = e.list t failure s := by
  simp only [advance, hp, ht, if_true]

/-- The answer in place of a phase; none of its parts is left out for a `POST`. -/
theorem answer_addition (hadd : IsAddition e.request) (time : Nat) (response : Response) :
    e.answer time response = { e with phase := .answered time response } := by
  rw [answer, forMethod_addition hadd]

/-- The service stands between taking a call's plan from the script of a store and making the call. -/
def Calling (take : Store.Script → Store.Plan × Store.Script) (store : Scripted) (s : Service) : Prop :=
  s.store = store.memory ∧ s.script = (take store.script).2

/-- A failed insert is the answer, and leaves the store as a direct call does. -/
theorem insert_fails {cause : Store.Error} (t : Nat) (hs : Calling Store.Script.takeInsert store s)
    (h : (NumberStore.insert store value).1 = .error cause) :
    ∃ s', e.insert t value store.script.takeInsert.1.failure s = (e.answer t (Error.insert cause).response, s') ∧
      s'.scripted = (NumberStore.insert store value).2 := by
  change (store.call Store.Script.takeInsert (·.insert value)).1 = _ at h
  change ∃ s' : Service, _ ∧ s'.scripted = (store.call Store.Script.takeInsert (·.insert value)).2
  obtain ⟨hm, hscript⟩ := hs
  simp only [Scripted.call, ← hm, ← hscript] at h ⊢
  cases hf : store.script.takeInsert.1.failure with
  | some failure =>
    simp only [hf, Except.error.injEq] at h ⊢
    subst h
    exact ⟨(e.insertFailed t failure s).2, rfl, rfl⟩
  | none =>
    simp only [hf, Exchange.insert] at h ⊢
    split
    · rename_i failure memory hi
      rw [hi] at h
      cases h
      exact ⟨_, rfl, by rw [hi]; rfl⟩
    · rename_i hi
      rw [hi] at h
      cases h

/-- After an insert that succeeds the read is called. -/
theorem insert_succeeds {record : Store.Record Nat} (t : Nat) (hs : Calling Store.Script.takeInsert store s)
    (h : (NumberStore.insert store value).1 = .ok record) :
    let inserted := (NumberStore.insert store value).2
    ∃ s', e.insert t value store.script.takeInsert.1.failure s =
        ({ e with
          phase := .listing (inserted.script.takeList.1.delay.map (t + ·)) inserted.script.takeList.1.failure }, s') ∧
      Calling Store.Script.takeList inserted s' := by
  change (store.call Store.Script.takeInsert (·.insert value)).1 = _ at h
  intro inserted
  have hinserted : inserted = (store.call Store.Script.takeInsert (·.insert value)).2 := rfl
  obtain ⟨hm, hscript⟩ := hs
  simp only [Scripted.call, ← hm, ← hscript] at h hinserted
  cases hf : store.script.takeInsert.1.failure with
  | some failure => simp [hf] at h
  | none =>
    simp only [hf, Exchange.insert] at h hinserted ⊢
    split
    · rename_i hi
      rw [hi] at h
      cases h
    · rename_i record memory hi
      rw [hi] at hinserted
      rw [hinserted]
      exact ⟨_, rfl, rfl, rfl⟩

/-- The read is the answer, whether it fails or not. -/
theorem list_answers (t : Nat) (hs : Calling Store.Script.takeList store s) :
    let listed := NumberStore.listSorted store
    ∃ s', e.list t store.script.takeList.1.failure s =
        (e.answer t (answerTo ((listed.1.map (·.map (·.value))).mapError Error.list)), s') ∧
      s'.scripted = listed.2 := by
  change ∃ s' : Service, _ = (e.answer t (answerTo (((store.call Store.Script.takeList _).1.map _).mapError _)), s') ∧
    s'.scripted = (store.call Store.Script.takeList fun m => (m.listSorted, m)).2
  obtain ⟨hm, hscript⟩ := hs
  simp only [Scripted.call, ← hm, ← hscript]
  cases hf : store.script.takeList.1.failure with
  | some failure => exact ⟨(e.listFailed t failure s).2, rfl, rfl⟩
  | none =>
    simp only [Exchange.list]
    cases hl : s.store.listSorted with
    | error failure => exact ⟨(e.listFailed t failure s).2, rfl, rfl⟩
    | ok records => exact ⟨timed s, rfl, rfl⟩

end Exchange

/-! ## The whole exchange -/

namespace Run

open Store (Scripted)

variable {e : Exchange} {s : Service} {store : Scripted} {value : Int32}

/-- All that is left is an answer to an addition, and a store. -/
def EndsIn (r : Run) (answer : Except Error (List Int32)) (store : Scripted) : Prop :=
  r.responses = [answerTo answer] ∧ r.service.scripted = store

theorem endsIn_answer (hadd : IsAddition e.request) (n t : Nat) (answer : Except Error (List Int32))
    (hs : s.scripted = store) : (finishWithin n ⟨s, [e.answer t (answerTo answer)]⟩).EndsIn answer store := by
  rw [Exchange.answer_addition hadd, finishWithin_of_answered rfl]
  exact ⟨rfl, hs⟩

theorem endsIn_listing (hadd : IsAddition e.request) {t : Nat}
    (hp : e.phase = .listing (some t) store.script.takeList.1.failure) (ht : t < e.due)
    (hs : Exchange.Calling Store.Script.takeList store s) (n : Nat) :
    let listed := NumberStore.listSorted store
    (finishWithin (n + 1) ⟨s, [e]⟩).EndsIn ((listed.1.map (·.map (·.value))).mapError Error.list) listed.2 := by
  intro listed
  obtain ⟨s', hlist, hs'⟩ := Exchange.list_answers (e := e) t hs
  rw [finishWithin_single (by simp [Exchange.answer?, hp]), Exchange.advance_listing hp ht, hlist]
  exact endsIn_answer hadd n t _ hs'

theorem endsIn_inserting (hadd : IsAddition e.request) {t : Nat}
    (hp : e.phase = .inserting value (some t) store.script.takeInsert.1.failure) (ht : t < e.due)
    (hs : Exchange.Calling Store.Script.takeInsert store s)
    (hlist : (NumberStore.insert store value).1.isOk →
      ∃ u, (NumberStore.insert store value).2.script.takeList.1.delay = some u ∧ t + u < e.due) (n : Nat) :
    (finishWithin (n + 2) ⟨s, [e]⟩).EndsIn (storeAndList value store).1 (storeAndList value store).2 := by
  have hopen : e.answer? = none := by simp [Exchange.answer?, hp]
  cases hi : (NumberStore.insert store value).1 with
  | error cause =>
    obtain ⟨s', hinsert, hs'⟩ := Exchange.insert_fails (e := e) t hs hi
    rw [finishWithin_single hopen, Exchange.advance_inserting hp ht, hinsert, storeAndList_failed hi]
    exact endsIn_answer hadd (n + 1) t (.error (.insert cause)) hs'
  | ok record =>
    obtain ⟨u, hdelay, hdue⟩ := hlist (by rw [hi]; rfl)
    obtain ⟨s', hinsert, hs'⟩ := Exchange.insert_succeeds (e := e) t hs hi
    rw [finishWithin_single hopen, Exchange.advance_inserting hp ht, hinsert, storeAndList_listed hi, hdelay,
      Option.map_some]
    exact endsIn_listing (e := { e with phase := .listing (some (t + u)) _ }) hadd rfl hdue hs' n

end Run

/-- An addition that has the service to itself, and whose store calls return in time, is
    answered as the store answers, and leaves the store as a direct call does. -/
theorem finish_addition {e : Exchange} {s : Service} {value : Int32} (hp : e.phase = .arriving)
    (hadd : IsAddition e.request) (hq : numberOf e.request.target.query = .ok value) (ht : s.InTime e.deadline value) :
    (Run.finish ⟨s, [e]⟩).EndsIn (storeAndList value s.scripted).1 (storeAndList value s.scripted).2 := by
  obtain ⟨t, hdelay, hlt, hlist⟩ := ht
  have hopen : e.answer? = none := by simp [Exchange.answer?, hp]
  have hrank : (⟨s, [e]⟩ : Run).rank = 3 := by simp [Run.rank, Exchange.rank, hp]
  have hstart : e.advance s =
      ({ e with phase := .inserting value (some (e.arrival + t)) s.script.takeInsert.1.failure },
        { s with script := s.script.takeInsert.2 }) := by
    have hd : ¬ e.deadline = 0 := by omega
    simp only [Exchange.advance, hp, hd, if_false]
    rw [Exchange.start_addition hadd hq, hdelay, Option.map_some]
  rw [Run.finish, hrank, Run.finishWithin_single hopen, hstart]
  have hcalling : Exchange.Calling Store.Script.takeInsert s.scripted { s with script := s.script.takeInsert.2 } :=
    ⟨rfl, rfl⟩
  refine Run.endsIn_inserting (e := { e with phase := .inserting value (some (e.arrival + t)) _ }) hadd rfl ?_
    hcalling ?_ 0
  · simp only [Exchange.due]; omega
  · intro hok
    obtain ⟨u, hu, hle⟩ := hlist hok
    exact ⟨u, hu, by simp only [Exchange.due]; omega⟩

end NumberRegistry.Api
