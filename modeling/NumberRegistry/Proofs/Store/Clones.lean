/-
  NumberRegistry.Proofs.Store.Clones — what a store in memory and its clones answer.

  A new store is cloned, called and cleared through any of its clones, in any order
  (`Clones.run`). What this does to the records is told by the answers of the inserts
  alone (`change?`), those that adding a number begins with included.

  Proved, for all switches and all events:
  - `Kept`: the store holds the records that were inserted since it was last cleared, in
    their order, and no identifier was given twice, before that either.
  - `reads_in_order`: every read that succeeds gives the one list of these records that
    is in ascending order and keeps equal numbers as they were inserted. A call that fails
    leaves the records as they were, unless it is a read that fails after its insert.
-/
import NumberRegistry.Proofs.Store.Memory
import NumberRegistry.Store.Clones
import Mathlib

namespace NumberRegistry.Store

/-! ## One call -/

namespace Memory

@[simp] theorem numberStore_insert (m : Memory) (value : Int32) : NumberStore.insert m value = m.insert value := rfl

@[simp] theorem numberStore_listSorted (m : Memory) : NumberStore.listSorted m = (m.listSorted, m) := rfl

@[simp] theorem numberStore_ping (m : Memory) : NumberStore.ping m = m.ping := rfl

/-- Adding a number leaves what its insert leaves, and answers the first failure. -/
theorem storeAndList_cases (m : Memory) (value : Int32) :
    (Api.storeAndList value m).2 = (m.insert value).2 ∧
      ((∃ cause, (m.insert value).1 = .error cause ∧
        (Api.storeAndList value m).1 = .error (.insert cause)) ∨
      (∃ record cause, (m.insert value).1 = .ok record ∧
        (Api.storeAndList value m).1 = .error (.list cause)) ∨
      (∃ record records, (m.insert value).1 = .ok record ∧ (m.insert value).2.listSorted = .ok records ∧
        (Api.storeAndList value m).1 = .ok (records.map (·.value)))) := by
  obtain ⟨cause, hi, h⟩ | ⟨record, cause, hi, hl, h⟩ | ⟨record, records, hi, hl, h⟩ :=
    Api.storeAndList_cases m value
  · exact ⟨by rw [h]; rfl, Or.inl ⟨cause, hi, by rw [h]⟩⟩
  · exact ⟨by rw [h]; rfl, Or.inr (Or.inl ⟨record, cause, hi, by rw [h]⟩)⟩
  · exact ⟨by rw [h]; rfl, Or.inr (Or.inr ⟨record, records, hi, hl, by rw [h]⟩)⟩

/-- The record that a call puts into the store, as its insert answers. -/
def inserted? (m : Memory) : Operation → Option (Record Nat)
  | .insert value => (m.insert value).1.toOption
  | .add value => (m.insert value).1.toOption
  | .list => none
  | .ping => none

/-- An insert leaves the record that it answers, and one identifier less to give. -/
theorem insert_snd (m : Memory) (value : Int32) :
    (m.insert value).2.records = m.records ++ (m.insert value).1.toOption.toList ∧
      (m.insert value).2.nextId = m.nextId + (m.insert value).1.toOption.toList.length ∧
      (m.insert value).2.failures = m.failures := by
  unfold insert
  split <;> simp [Except.toOption]

theorem perform_snd (m : Memory) (operation : Operation) :
    (perform m operation).2.records = m.records ++ (m.inserted? operation).toList ∧
      (perform m operation).2.nextId = m.nextId + (m.inserted? operation).toList.length := by
  cases operation with
  | insert value => exact ⟨(m.insert_snd value).1, (m.insert_snd value).2.1⟩
  | list => simp [perform, inserted?]
  | ping => simp [perform, inserted?, ping]
  | add value =>
    simp only [perform, (m.storeAndList_cases value).1, inserted?]
    exact ⟨(m.insert_snd value).1, (m.insert_snd value).2.1⟩

theorem inserted?_id {m : Memory} {operation : Operation} {record : Record Nat}
    (h : m.inserted? operation = some record) : record.id = m.nextId := by
  cases operation with
  | insert value | add value =>
    simp only [inserted?, insert] at h
    split at h
    · cases h
    · cases h; rfl
  | list | ping => cases h

end Memory

namespace Clones

/-! ## Changes -/

/-- What an event does to the records. -/
inductive Change where
  | inserted (record : Record Nat)
  | cleared
  deriving DecidableEq, Repr

def change? (c : Clones) : Event → Option Change
  | .clone _ => none
  | .call clone operation =>
    c.switches[clone]?.bind fun failures => ((c.view failures).inserted? operation).map Change.inserted
  | .clear clone => c.switches[clone]?.map fun _ => Change.cleared

/-- The changes of a run, in their order. -/
def changes (c : Clones) : List Event → List Change
  | [] => []
  | e :: rest => (c.change? e).toList ++ (c.step e).2.changes rest

def Change.record? : Change → Option (Record Nat)
  | .inserted record => some record
  | .cleared => none

def Change.apply (stored : List (Record Nat)) : Change → List (Record Nat)
  | .inserted record => stored ++ [record]
  | .cleared => []

/-- The records inserted since the last clearing. -/
def sinceCleared (log : List Change) : List (Record Nat) := log.foldl Change.apply []

/-- All records that were ever inserted. -/
def everInserted (log : List Change) : List (Record Nat) :=
  log.filterMap Change.record?

/-- Events that put in a record or drop them. -/
def Event.Writes : Event → Prop
  | .call _ (.insert _) => True
  | .call _ (.add _) => True
  | .clear _ => True
  | _ => False

theorem change?_of_not_writes (c : Clones) {e : Event} (h : ¬ e.Writes) : c.change? e = none := by
  match e with
  | .clone _ => rfl
  | .call clone .list | .call clone .ping =>
    simp only [change?, Memory.inserted?, Option.map_none]
    cases c.switches[clone]? <;> rfl
  | .call _ (.insert _) | .call _ (.add _) | .clear _ => exact absurd trivial h

theorem changes_of_not_writes {events : List Event} (h : ∀ e ∈ events, ¬ e.Writes) :
    ∀ c : Clones, c.changes events = [] := by
  induction events with
  | nil => intro c; rfl
  | cons e rest ih =>
    intro c
    simp only [changes, c.change?_of_not_writes (h e (List.mem_cons_self ..)),
      ih (fun e he => h e (List.mem_cons_of_mem _ he))]
    rfl

/-! ## One event -/

/-- A call is one of the store in memory, and leaves for all what it leaves there. -/
theorem step_call {c : Clones} {i : Nat} {operation : Operation} {answer : Answer Nat}
    (h : (c.step (.call i operation)).1 = some answer) :
    ∃ failures, c.switches[i]? = some failures ∧ (perform (c.view failures) operation).1 = answer ∧
      (c.step (.call i operation)).2 = c.keep (perform (c.view failures) operation).2 := by
  simp only [step] at h ⊢
  split at h
  · rename_i failures hi
    exact ⟨failures, hi, by simpa using h, rfl⟩
  · cases h

/-- What an event does to the records all clones share, and to the next identifier: every
    one that was given is below it. -/
theorem step_shared (c : Clones) (e : Event) :
    (c.step e).2.records = (c.change? e).toList.foldl Change.apply c.records ∧
      (c.step e).2.nextId = c.nextId + (everInserted (c.change? e).toList).length := by
  cases e with
  | clone origin =>
    simp only [step, change?]
    split <;> exact ⟨rfl, rfl⟩
  | call clone operation =>
    simp only [step, change?]
    cases c.switches[clone]? with
    | none => exact ⟨rfl, rfl⟩
    | some failures =>
      obtain ⟨hrecords, hnext⟩ := (c.view failures).perform_snd operation
      simp only [keep, hrecords, hnext, Option.bind_some]
      cases (c.view failures).inserted? operation <;> simp [Change.apply, everInserted, Change.record?, view]
  | clear clone =>
    simp only [step, change?]
    cases c.switches[clone]? <;> exact ⟨rfl, rfl⟩

theorem step_records (c : Clones) (e : Event) :
    (c.step e).2.records = (c.change? e).toList.foldl Change.apply c.records :=
  (c.step_shared e).1

theorem change?_id {c : Clones} {e : Event} {record : Record Nat} (h : c.change? e = some (.inserted record)) :
    record.id = c.nextId := by
  cases e with
  | clone origin => cases h
  | call clone operation =>
    obtain ⟨failures, _, hf⟩ := Option.bind_eq_some_iff.mp h
    obtain ⟨_, hr, hc⟩ := Option.map_eq_some_iff.mp hf
    cases hc
    exact Memory.inserted?_id hr
  | clear clone =>
    obtain ⟨_, _, hc⟩ := Option.map_eq_some_iff.mp h
    cases hc

theorem step_switches {c : Clones} {failures : Failures} (h : ∀ f ∈ c.switches, f = failures) (e : Event) :
    ∀ f ∈ (c.step e).2.switches, f = failures := by
  cases e with
  | clone origin =>
    simp only [step]
    split
    · rename_i g hg
      intro f hf
      rcases List.mem_append.mp hf with hf | hf
      · exact h f hf
      · rw [List.mem_singleton.mp hf]; exact h g (List.mem_of_getElem? hg)
    · exact h
  | call clone operation => simp only [step]; split <;> exact h
  | clear clone => simp only [step]; split <;> exact h

/-! ## All events -/

/-- The store holds what the changes left, its clones have its switches, and every
    identifier was given once. -/
structure Kept (failures : Failures) (c : Clones) (log : List Change) : Prop where
  switches : ∀ f ∈ c.switches, f = failures
  records : c.records = sinceCleared log
  given : ∀ r ∈ everInserted log, r.id < c.nextId
  once : ((everInserted log).map (·.id)).Nodup

theorem kept_opening (failures : Failures) : Kept failures (opening failures) [] :=
  ⟨by simp [opening], rfl, by simp [everInserted], by simp [everInserted]⟩

theorem Kept.step {failures : Failures} {c : Clones} {log : List Change} (h : Kept failures c log) (e : Event) :
    Kept failures (c.step e).2 (log ++ (c.change? e).toList) := by
  have hnext := (c.step_shared e).2
  have hever : everInserted (log ++ (c.change? e).toList) =
      everInserted log ++ everInserted (c.change? e).toList := List.filterMap_append
  have hnew : ∀ r ∈ everInserted (c.change? e).toList, r.id = c.nextId := by
    intro r hr
    obtain ⟨change, hc, hm⟩ := List.mem_filterMap.mp hr
    cases change with
    | inserted record => cases hm; exact change?_id (Option.mem_toList.mp hc)
    | cleared => cases hm
  refine ⟨step_switches h.switches e, ?_, fun r hr => ?_, ?_⟩
  · rw [step_records, h.records, sinceCleared, sinceCleared, List.foldl_append]
  · rw [hever] at hr
    rcases List.mem_append.mp hr with hr | hr
    · have := h.given r hr; omega
    · have := hnew r hr
      have := List.length_pos_of_mem hr
      omega
  · rw [hever, List.map_append]
    refine List.nodup_append.mpr ⟨h.once, ?_, fun a ha b hb hab => ?_⟩
    · cases c.change? e with
      | none => exact List.nodup_nil
      | some change => cases change <;> simp [everInserted, List.filterMap_cons, Change.record?]
    · obtain ⟨r, hr, rfl⟩ := List.mem_map.mp ha
      obtain ⟨s, hs, rfl⟩ := List.mem_map.mp hb
      have := h.given r hr
      have := hnew s hs
      omega

theorem Kept.run {failures : Failures} : ∀ (events : List Event) {c : Clones} {log : List Change},
    Kept failures c log → Kept failures (c.run events) (log ++ c.changes events) := by
  intro events
  induction events with
  | nil => intro c log h; simpa [Clones.run, changes] using h
  | cons e rest ih =>
    intro c log h
    have := ih (h.step e)
    rw [List.append_assoc] at this
    exact this

theorem kept_run (failures : Failures) (events : List Event) :
    Kept failures ((opening failures).run events) ((opening failures).changes events) := by
  simpa using (kept_opening failures).run events

/-! ## Answers -/

theorem step_list {c : Clones} {i : Nat} {records : List (Record Nat)}
    (h : (c.step (.call i .list)).1 = some (.records (.ok records))) : Reads c.records records := by
  obtain ⟨failures, -, ha, -⟩ := step_call h
  simp only [perform, Memory.numberStore_listSorted, Answer.records.injEq] at ha
  exact Memory.listSorted_reads ha

/-- Reads and inserts fail by their switch, and by nothing else. -/
theorem step_succeeds {c : Clones} {failures : Failures} (h : ∀ f ∈ c.switches, f = failures) {i : Nat}
    (hi : i < c.switches.length) :
    ((∃ records, (c.step (.call i .list)).1 = some (.records (.ok records))) ↔ failures.list = false) ∧
      ∀ value, (∃ record, (c.step (.call i (.insert value))).1 = some (.record (.ok record))) ↔
        failures.insert = false := by
  have hf : c.switches[i]? = some failures := by
    rw [List.getElem?_eq_getElem hi, h _ (List.getElem_mem hi)]
  refine ⟨?_, fun value => ?_⟩
  · cases hl : failures.list <;> simp [step, hf, perform, Memory.listSorted, view, hl]
  · cases hl : failures.insert <;> simp [step, hf, perform, Memory.insert, view, hl]

/-- An insert that succeeds is a change, and one that fails is none. -/
theorem step_insert {c : Clones} {i : Nat} {value : Int32} {result : Except Error (Record Nat)}
    (h : (c.step (.call i (.insert value))).1 = some (.record result)) :
    c.change? (.call i (.insert value)) = result.toOption.map Change.inserted ∧
      ∀ record, result = .ok record → record.value = value := by
  obtain ⟨failures, hi, ha, -⟩ := step_call h
  simp only [perform, Memory.numberStore_insert, Answer.record.injEq] at ha
  refine ⟨by simp [change?, hi, Memory.inserted?, ha], fun record hr => ?_⟩
  rw [(Memory.insert_ok (ha.trans hr)).1]

/-- Adding a number is a change unless its insert fails; what it shows is read after it. -/
theorem step_add {c : Clones} {i : Nat} {value : Int32} {result : Except Api.Error (List Int32)}
    (h : (c.step (.call i (.add value))).1 = some (.numbers result)) :
    (∃ cause, result = .error (.insert cause) ∧ c.change? (.call i (.add value)) = none) ∨
      ∃ record, c.change? (.call i (.add value)) = some (.inserted record) ∧ record.value = value ∧
        ((∃ cause, result = .error (.list cause)) ∨
          ∃ read, Reads (c.records ++ [record]) read ∧ result = .ok (read.map (·.value))) := by
  obtain ⟨failures, hi, ha, -⟩ := step_call h
  simp only [perform, Answer.numbers.injEq] at ha
  have hc : c.change? (.call i (.add value)) =
      ((c.view failures).insert value).1.toOption.map Change.inserted := by
    simp [change?, hi, Memory.inserted?]
  obtain ⟨-, ⟨cause, hins, hres⟩ | ⟨record, cause, hins, hres⟩ | ⟨record, read, hins, hl, hres⟩⟩ :=
    (c.view failures).storeAndList_cases value
  · exact Or.inl ⟨cause, ha ▸ hres, by rw [hc, hins]; rfl⟩
  · refine Or.inr ⟨record, by rw [hc, hins]; rfl, ?_, Or.inl ⟨cause, ha ▸ hres⟩⟩
    rw [(Memory.insert_ok hins).1]
  · refine Or.inr ⟨record, by rw [hc, hins]; rfl, ?_, Or.inr ⟨read, ?_, ha ▸ hres⟩⟩
    · rw [(Memory.insert_ok hins).1]
    · rw [← show _ = c.records ++ [record] from (Memory.insert_ok hins).2]
      exact Memory.listSorted_reads hl

/-- What a new store and its clones answer, after any events. A read that succeeds, alone
    or as a part of adding a number, gives the records inserted since the last clearing:
    in ascending order and equal numbers as they were inserted, which is one list. An
    insert that fails stores nothing, a read that fails after an insert leaves the record,
    and neither reads nor pings change the records; so two reads with nothing written
    between them are the same. Reads and inserts fail by the store's switches alone. No
    identifier is given twice. -/
theorem reads_in_order (failures : Failures) (before : List Event) :
    let c := (opening failures).run before
    let log := (opening failures).changes before
    let stored := sinceCleared log
    c.records = stored ∧
    (∀ i records, (c.step (.call i .list)).1 = some (.records (.ok records)) →
      Reads stored records ∧ ∀ other, Reads stored other → other = records) ∧
    (∀ i value numbers, (c.step (.call i (.add value))).1 = some (.numbers (.ok numbers)) →
      ∃ record read, c.change? (.call i (.add value)) = some (.inserted record) ∧ record.value = value ∧
        Reads (stored ++ [record]) read ∧ numbers = read.map (·.value)) ∧
    (∀ i value record, (c.step (.call i (.insert value))).1 = some (.record (.ok record)) →
      c.change? (.call i (.insert value)) = some (.inserted record) ∧ record.value = value) ∧
    (∀ i value cause, (c.step (.call i (.insert value))).1 = some (.record (.error cause)) →
      (c.step (.call i (.insert value))).2.records = stored) ∧
    (∀ i value cause, (c.step (.call i (.add value))).1 = some (.numbers (.error (.insert cause))) →
      (c.step (.call i (.add value))).2.records = stored) ∧
    (∀ i value cause, (c.step (.call i (.add value))).1 = some (.numbers (.error (.list cause))) →
      ∃ id, (c.step (.call i (.add value))).2.records = stored ++ [⟨id, value⟩]) ∧
    (∀ i, (c.step (.call i .list)).2.records = stored ∧ (c.step (.call i .ping)).2.records = stored) ∧
    (∀ i, i < c.switches.length →
      ((∃ records, (c.step (.call i .list)).1 = some (.records (.ok records))) ↔ failures.list = false) ∧
        ∀ value, (∃ record, (c.step (.call i (.insert value))).1 = some (.record (.ok record))) ↔
          failures.insert = false) ∧
    (∀ between i j first second, (∀ e ∈ between, ¬ e.Writes) →
      (c.step (.call i .list)).1 = some (.records (.ok first)) →
      ((c.run between).step (.call j .list)).1 = some (.records (.ok second)) → second = first) ∧
    ((everInserted log).map (·.id)).Nodup := by
  intro c log stored
  have h : Kept failures c log := kept_run failures before
  have hrecords : c.records = stored := h.records
  have unchanged : ∀ e : Event, c.change? e = none → (c.step e).2.records = stored := fun e he => by
    rw [step_records, he, hrecords]; rfl
  refine ⟨hrecords, ?_, ?_, ?_, ?_, ?_, ?_, ?_, fun _ hi => step_succeeds h.switches hi, ?_, h.once⟩
  · intro i records hr
    have hreads := hrecords ▸ step_list hr
    exact ⟨hreads, fun other ho => hreads.unique ho⟩
  · intro i value numbers hr
    obtain ⟨cause, hres, -⟩ | ⟨record, hc, hv, ⟨cause, hres⟩ | ⟨read, hreads, hres⟩⟩ := step_add hr
    · cases hres
    · cases hres
    · cases hres
      exact ⟨record, read, hc, hv, hrecords ▸ hreads, rfl⟩
  · intro i value record hr
    obtain ⟨hc, hv⟩ := step_insert hr
    exact ⟨hc, hv record rfl⟩
  · intro i value cause hr
    exact unchanged _ (step_insert hr).1
  · intro i value cause hr
    obtain ⟨_, -, hc⟩ | ⟨_, _, _, ⟨_, hres⟩ | ⟨_, _, hres⟩⟩ := step_add hr
    · exact unchanged _ hc
    · cases hres
    · cases hres
  · intro i value cause hr
    obtain ⟨_, hres, -⟩ | ⟨record, hc, hv, -⟩ := step_add hr
    · cases hres
    · refine ⟨record.id, ?_⟩
      rw [step_records, hc, hrecords, ← hv]
      rfl
  · intro i
    exact ⟨unchanged _ (change?_of_not_writes c id), unchanged _ (change?_of_not_writes c id)⟩
  · intro between i j first second hb hfirst hsecond
    have hsame : (c.run between).records = stored := by
      have hk := h.run between
      rw [changes_of_not_writes hb, List.append_nil] at hk
      exact hk.records
    exact (hrecords ▸ step_list hfirst).unique (hsame ▸ step_list hsecond)

end Clones

end NumberRegistry.Store
