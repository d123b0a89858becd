/-
  NumberRegistry.Proofs.Serving.Ownership — what a server that has returned leaves behind.

  Proved, for every order of events:
  - `Tasks`: every connection that runs is in the set the server owns, and only those
    that are cut off at the end of the grace period are ever cut off.
  - `Requests`: the store holds one record for each request whose insert it has taken,
    and a request is answered once.
  - `returned_leaves_nothing`: when the server returns its set is empty and no connection
    runs, and no event after that stores a record. A request whose insert was waiting
    when the grace period ended is never stored and never answered.
-/
import NumberRegistry.Proofs.Serving.Moves
import Mathlib.Data.List.Nodup

namespace NumberRegistry.Serving

/-! ## Who owns what -/

/-- Every connection there ever was runs or has ended, and the set has all that run. -/
structure Tasks (s : Serving) : Prop where
  accounted : (s.ended.map (·.connection) ++ s.connections.map (·.id)).Perm (List.range s.nextConnection)
  owned : ∀ c ∈ s.connections, c.id ∈ s.owned
  cut : ∀ c ∈ s.connections, c.cut = true ↔ s.phase = .aborting
  gone : ∀ outcome, s.phase = .returned outcome → s.connections = [] ∧ s.owned = []

theorem tasks_opening (store : Store.Memory) : Tasks (opening store) := by
  refine ⟨by simp [opening], by simp [opening], by simp [opening], fun _ h => ?_⟩
  cases h

theorem Tasks.nodup {s : Serving} (h : Tasks s) : (s.connections.map (·.id)).Nodup :=
  (List.nodup_append.mp (h.accounted.nodup_iff.mpr List.nodup_range)).2.1

theorem ids_finish {s : Serving} {c : Connection} (hn : (s.connections.map (·.id)).Nodup) (hc : c ∈ s.connections)
    (ending : Ending) :
    (s.connections.map (·.id)).Perm (c.id :: (s.finish c ending).connections.map (·.id)) := by
  have hfilter : (s.finish c ending).connections.map (·.id) = (s.connections.map (·.id)).filter (· ≠ c.id) := by
    simp only [finish, List.filter_map]
    rfl
  have herase : (s.connections.map (·.id)).erase c.id = (s.connections.map (·.id)).filter (· ≠ c.id) := by
    rw [hn.erase_eq_filter]
    simp [bne, beq_eq_decide]
  rw [hfilter, ← herase]
  exact List.perm_cons_erase (List.mem_map.mpr ⟨c, hc, rfl⟩)

theorem Tasks.put {s : Serving} {c : Connection} (h : Tasks s) (hc : c ∈ s.connections) (c' : Connection)
    (hid : c'.id = c.id) (hcut : c'.cut = c.cut) : Tasks (s.put c') := by
  refine ⟨?_, fun d hd => ?_, fun d hd => ?_, fun outcome hp => ?_⟩
  · rw [ids_put]; exact h.accounted
  · rcases mem_put hd with rfl | ⟨hd, _⟩
    · rw [hid]; exact h.owned c hc
    · exact h.owned d hd
  · rcases mem_put hd with rfl | ⟨hd, _⟩
    · rw [hcut]; exact h.cut c hc
    · exact h.cut d hd
  · rw [(h.gone outcome hp).1] at hc
    cases hc

theorem Tasks.finish {s : Serving} {c : Connection} (h : Tasks s) (hc : c ∈ s.connections) (ending : Ending) :
    Tasks (s.finish c ending) := by
  refine ⟨?_, fun d hd => h.owned d (mem_finish.mp hd).1, fun d hd => h.cut d (mem_finish.mp hd).1, fun outcome hp => ?_⟩
  · refine List.Perm.trans ?_ h.accounted
    have hp := (ids_finish h.nodup hc ending).symm
    simpa [Serving.finish] using hp.append_left (s.ended.map (·.connection))
  · rw [(h.gone outcome hp).1] at hc
    cases hc

theorem Tasks.move {s t : Serving} {e : Event} (h : Tasks s) (hm : Move s e t) : Tasks t := by
  cases hm with
  | rest => exact h
  | arrive _ _ | signal | expire _ | refuse _ _ => exact ⟨h.accounted, h.owned, h.cut, h.gone⟩
  | stop hp _ =>
    refine ⟨h.accounted, h.owned, fun c hc => ?_, fun _ hr => by cases hr⟩
    rw [h.cut c hc, hp]
    simp [Serving.stop]
  | spawn hp _ =>
    refine ⟨?_, fun c hc => ?_, fun c hc => ?_, fun _ hr => ?_⟩
    · rw [List.range_succ]
      simpa using h.accounted.append_right [s.nextConnection]
    · rcases List.mem_append.mp hc with hc | hc
      · exact List.mem_append_left _ (h.owned c hc)
      · rw [List.mem_singleton.mp hc]; simp
    · rcases List.mem_append.mp hc with hc | hc
      · exact h.cut c hc
      · rw [List.mem_singleton.mp hc]; simp [hp]
    · rw [hp] at hr; cases hr
  | join hlen hsub hrun =>
    refine ⟨h.accounted, fun c hc => ?_, h.cut, fun outcome hp => ?_⟩
    · exact hrun _ (h.owned c hc) (isRunning_iff.mpr ⟨c, hc, rfl⟩)
    · rw [(h.gone outcome hp).2] at hlen; simp at hlen
  | drained hp ho | aborted hp ho =>
    have hnone : s.connections = [] := by
      refine List.eq_nil_iff_forall_not_mem.mpr fun c hc => ?_
      have := h.owned c hc
      rw [ho] at this
      cases this
    exact ⟨h.accounted, h.owned, by simp [hnone], fun _ _ => ⟨hnone, ho⟩⟩
  | abort _ _ _ _ =>
    refine ⟨?_, fun d hd => ?_, fun d hd => ?_, fun _ hr => by cases hr⟩
    · rw [ids_abortAll]; exact h.accounted
    · obtain ⟨c, hc, rfl⟩ := mem_abortAll.mp hd
      exact h.owned c hc
    · obtain ⟨c, hc, rfl⟩ := mem_abortAll.mp hd
      simp [abortAll]
  | part hc _ _ | storeFails hc _ _ => exact h.put hc _ rfl rfl
  | see hc _ _ _ _ => exact h.put hc _ rfl rfl
  | @begin c work close hc _ _ =>
    have h' := h.put hc { c with stage := .handling s.nextRequest work, last := c.last || close } rfl rfl
    exact ⟨h'.accounted, h'.owned, h'.cut, h'.gone⟩
  | @store c request _ _ hc _ _ _ =>
    have h' := h.put hc { c with stage := .handling request .answering } rfl rfl
    exact ⟨h'.accounted, h'.owned, h'.cut, h'.gone⟩
  | @answer c _ _ hc _ _ _ =>
    have h' := h.put hc { c with stage := .idle } rfl rfl
    exact ⟨h'.accounted, h'.owned, h'.cut, h'.gone⟩
  | answerLast hc _ _ _ =>
    have h' := h.finish hc .answered
    exact ⟨h'.accounted, h'.owned, h'.cut, h'.gone⟩
  | hangUp hc _ | drop hc _ => exact h.finish hc _
  | close hc _ _ _ _ => exact h.finish hc _

theorem tasks_run (store : Store.Memory) (es : List Event) : Tasks ((opening store).run es) :=
  run_invariant Tasks.move es (tasks_opening store)

/-! ## Requests -/

/-- What is known of the request a connection is at. -/
structure AtHand (s : Serving) (connection request : Nat) (work : Work) : Prop where
  begun : ∃ asked, ⟨request, connection, asked⟩ ∈ s.begun ∧ ∀ value, work = .storing value → asked = .storing value
  unanswered : request ∉ s.answers.map (·.request)
  unstored : ∀ value, work = .storing value → request ∉ s.completed.map (·.request)

/-- The store has one record for each request whose insert it has taken, with the number
    that the request asks to store; and no request is answered twice. -/
structure Requests (before : List (Store.Record Nat)) (s : Serving) : Prop where
  numbered : s.begun.map (·.request) = List.range s.nextRequest
  atHand : ∀ c ∈ s.connections, ∀ request work, c.stage = .handling request work → AtHand s c.id request work
  completed : ∀ x ∈ s.completed, ∃ connection, ⟨x.request, connection, .storing x.record.value⟩ ∈ s.begun
  once : (s.completed.map (·.request)).Nodup
  answered : ∀ a ∈ s.answers, ∃ asked, ⟨a.request, a.connection, asked⟩ ∈ s.begun
  answeredOnce : (s.answers.map (·.request)).Nodup
  records : s.store.records = before ++ s.completed.map (·.record)

theorem requests_opening (store : Store.Memory) : Requests store.records (opening store) := by
  constructor <;> simp [opening]

theorem Requests.lt {before : List (Store.Record Nat)} {s : Serving} (h : Requests before s) {b : Begun}
    (hb : b ∈ s.begun) : b.request < s.nextRequest := by
  rw [← List.mem_range, ← h.numbered]
  exact List.mem_map.mpr ⟨b, hb, rfl⟩

/-- A request is at one connection. -/
theorem Requests.same {before : List (Store.Record Nat)} {s : Serving} (h : Requests before s)
    {c d request : Nat} {v w : Work} (hc : AtHand s c request v) (hd : AtHand s d request w) : c = d := by
  obtain ⟨_, hb, _⟩ := hc.begun
  obtain ⟨_, hb', _⟩ := hd.begun
  have hn : (s.begun.map (·.request)).Nodup := by rw [h.numbered]; exact List.nodup_range
  have := List.inj_on_of_nodup_map hn hb hb' rfl
  simp only [Begun.mk.injEq] at this
  exact this.2.1

theorem AtHand.mono {s t : Serving} {c request : Nat} {work : Work} (h : AtHand s c request work)
    (hb : ∀ b ∈ s.begun, b ∈ t.begun) (ha : t.answers = s.answers) (hc : t.completed = s.completed) :
    AtHand t c request work := by
  obtain ⟨asked, hm, hw⟩ := h.begun
  exact ⟨⟨asked, hb _ hm, hw⟩, by rw [ha]; exact h.unanswered, by rw [hc]; exact h.unstored⟩

/-- Connections that go on with what they are at, or are gone, leave the logs alone. -/
theorem Requests.of_connections {before : List (Store.Record Nat)} {s t : Serving} (h : Requests before s)
    (hn : t.nextRequest = s.nextRequest) (hb : t.begun = s.begun) (hc : t.completed = s.completed)
    (ha : t.answers = s.answers) (hs : t.store = s.store)
    (hat : ∀ d ∈ t.connections, ∀ request work, d.stage = .handling request work →
      ∃ c ∈ s.connections, c.id = d.id ∧ ∃ asked, c.stage = .handling request asked ∧
        ∀ value, work = .storing value → asked = .storing value) : Requests before t := by
  refine ⟨by rw [hb, hn]; exact h.numbered, fun d hd request work hst => ?_, by rw [hb, hc]; exact h.completed,
    by rw [hc]; exact h.once, by rw [ha, hb]; exact h.answered, by rw [ha]; exact h.answeredOnce,
    by rw [hs, hc]; exact h.records⟩
  obtain ⟨c, hcm, hid, asked, hasked, hsame⟩ := hat d hd request work hst
  obtain ⟨⟨a, hm, hw⟩, hunanswered, hunstored⟩ := h.atHand c hcm request asked hasked
  rw [← hid]
  exact ⟨⟨a, by rw [hb]; exact hm, fun value hv => hw value (hsame value hv)⟩, by rw [ha]; exact hunanswered,
    fun value hv => by rw [hc]; exact hunstored value (hsame value hv)⟩

theorem Requests.begin {before : List (Store.Record Nat)} {s : Serving} (h : Requests before s) (c : Connection)
    (work : Work) (close : Bool) : Requests before (s.begin c work close) := by
  have hbegun : ∀ b ∈ s.begun, b ∈ (s.begin c work close).begun := fun b hb => List.mem_append_left _ hb
  refine ⟨?_, fun d hd request w hst => ?_, fun x hx => ?_, h.once, fun a ha => ?_, h.answeredOnce, h.records⟩
  · simp only [Serving.begin, List.map_append, List.map_cons, List.map_nil, List.range_succ, h.numbered]
  · rcases mem_put hd with rfl | ⟨hd, _⟩
    · simp only [Stage.handling.injEq] at hst
      obtain ⟨rfl, rfl⟩ := hst
      refine ⟨⟨work, List.mem_append_right _ (List.mem_singleton.mpr rfl), fun _ hv => hv⟩, fun hm => ?_, fun _ _ hm => ?_⟩
      · obtain ⟨a, ha, he⟩ := List.mem_map.mp hm
        obtain ⟨_, hb⟩ := h.answered a ha
        have := h.lt hb
        simp only [he] at this
        omega
      · obtain ⟨x, hx, he⟩ := List.mem_map.mp hm
        obtain ⟨_, hb⟩ := h.completed x hx
        have := h.lt hb
        simp only [he] at this
        omega
    · exact (h.atHand d hd request w hst).mono hbegun rfl rfl
  · obtain ⟨connection, hb⟩ := h.completed x hx
    exact ⟨connection, hbegun _ hb⟩
  · obtain ⟨asked, hb⟩ := h.answered a ha
    exact ⟨asked, hbegun _ hb⟩

theorem Requests.store {before : List (Store.Record Nat)} {s : Serving} (h : Requests before s) {c : Connection}
    {request : Nat} {value : Int32} {record : Store.Record Nat} (hc : c ∈ s.connections)
    (hs : c.stage = .handling request (.storing value)) (hr : (s.store.insert value).1 = .ok record) :
    Requests before
      { s.put { c with stage := .handling request .answering } with
        store := (s.store.insert value).2
        completed := s.completed ++ [⟨request, record⟩] } := by
  have hat := h.atHand c hc request _ hs
  obtain ⟨hrecord, hrecords⟩ := Store.Memory.insert_ok hr
  refine ⟨h.numbered, fun d hd r w hst => ?_, fun x hx => ?_, ?_, h.answered, h.answeredOnce, ?_⟩
  · rcases mem_put hd with rfl | ⟨hd, hne⟩
    · simp only [Stage.handling.injEq] at hst
      obtain ⟨rfl, rfl⟩ := hst
      obtain ⟨asked, hm, _⟩ := hat.begun
      exact ⟨⟨asked, hm, fun _ hv => by cases hv⟩, hat.unanswered, fun _ hv => by cases hv⟩
    · have hd' := h.atHand d hd r w hst
      refine ⟨hd'.begun, hd'.unanswered, fun v hv hm => ?_⟩
      rw [List.map_append] at hm
      rcases List.mem_append.mp hm with hm | hm
      · exact hd'.unstored v hv hm
      · have hreq : r = request := by simpa using hm
        subst hreq
        exact hne (h.same hd' hat)
  · rcases List.mem_append.mp hx with hx | hx
    · exact h.completed x hx
    · rw [List.mem_singleton.mp hx, hrecord]
      obtain ⟨asked, hm, hw⟩ := hat.begun
      exact ⟨c.id, by rw [hw value rfl] at hm; exact hm⟩
  · rw [List.map_append]
    refine List.nodup_append.mpr ⟨h.once, by simp, fun a ha b hb hab => ?_⟩
    have : b = request := by simpa using hb
    exact hat.unstored value rfl (by rw [← this, ← hab]; exact ha)
  · simp only [hrecords, h.records, List.map_append, List.map_cons, List.map_nil, List.append_assoc]

/-- An answer to a request that is at hand, after which no connection is at it. -/
theorem Requests.answer {before : List (Store.Record Nat)} {s t : Serving} (h : Requests before s) {c : Connection}
    {request : Nat} {work : Work} (hc : c ∈ s.connections) (hs : c.stage = .handling request work) {close : Bool}
    (hn : t.nextRequest = s.nextRequest) (hb : t.begun = s.begun) (hcomp : t.completed = s.completed)
    (ha : t.answers = s.answers ++ [⟨c.id, request, close⟩]) (hst : t.store = s.store)
    (hat : ∀ d ∈ t.connections, d.stage = .idle ∨ d ∈ s.connections ∧ d.id ≠ c.id) : Requests before t := by
  have hcat := h.atHand c hc request work hs
  refine ⟨by rw [hb, hn]; exact h.numbered, fun d hd r w hdw => ?_, by rw [hb, hcomp]; exact h.completed,
    by rw [hcomp]; exact h.once, fun a hm => ?_, ?_, by rw [hst, hcomp]; exact h.records⟩
  · rcases hat d hd with hidle | ⟨hd, hne⟩
    · rw [hidle] at hdw; cases hdw
    · have hd' := h.atHand d hd r w hdw
      refine ⟨by rw [hb]; exact hd'.begun, fun hm => ?_, by rw [hcomp]; exact hd'.unstored⟩
      rw [ha, List.map_append] at hm
      rcases List.mem_append.mp hm with hm | hm
      · exact hd'.unanswered hm
      · have hreq : r = request := by simpa using hm
        subst hreq
        exact hne (h.same hd' hcat)
  · rw [ha] at hm
    rw [hb]
    rcases List.mem_append.mp hm with hm | hm
    · exact h.answered a hm
    · rw [List.mem_singleton.mp hm]
      obtain ⟨asked, hbegun, _⟩ := hcat.begun
      exact ⟨asked, hbegun⟩
  · rw [ha, List.map_append]
    refine List.nodup_append.mpr ⟨h.answeredOnce, by simp, fun a hm b hm' hab => ?_⟩
    have : b = request := by simpa using hm'
    exact hcat.unanswered (by rw [← this, ← hab]; exact hm)

theorem Requests.move {before : List (Store.Record Nat)} {s t : Serving} {e : Event} (h : Requests before s)
    (hm : Move s e t) : Requests before t := by
  have hkeep : ∀ {c : Connection}, c ∈ s.connections → ∀ request work, c.stage = .handling request work →
      ∃ c' ∈ s.connections, c'.id = c.id ∧ ∃ asked, c'.stage = .handling request asked ∧
        ∀ value, work = .storing value → asked = .storing value :=
    fun hc _ work hst => ⟨_, hc, rfl, work, hst, fun _ hv => hv⟩
  cases hm with
  | rest => exact h
  | arrive _ _ | signal | expire _ | stop _ _ | refuse _ _ | join _ _ _ | drained _ _ | aborted _ _ =>
    exact h.of_connections rfl rfl rfl rfl rfl fun d hd => hkeep hd
  | spawn _ _ =>
    refine h.of_connections rfl rfl rfl rfl rfl fun d hd r w hst => ?_
    rcases List.mem_append.mp hd with hd | hd
    · exact hkeep hd r w hst
    · rw [List.mem_singleton.mp hd] at hst; cases hst
  | abort _ _ _ _ =>
    refine h.of_connections rfl rfl rfl rfl rfl fun d hd r w hst => ?_
    obtain ⟨c, hc, rfl⟩ := mem_abortAll.mp hd
    exact hkeep hc r w hst
  | part hc _ _ =>
    refine h.of_connections rfl rfl rfl rfl rfl fun d hd r w hst => ?_
    rcases mem_put hd with rfl | ⟨hd, _⟩
    · cases hst
    · exact hkeep hd r w hst
  | begin hc _ _ => exact h.begin _ _ _
  | store hc _ hs hr => exact h.store hc hs hr
  | @storeFails c request value hc _ hs =>
    refine h.of_connections rfl rfl rfl rfl rfl fun d hd r w hst => ?_
    rcases mem_put hd with rfl | ⟨hd, _⟩
    · simp only [Stage.handling.injEq] at hst
      obtain ⟨rfl, rfl⟩ := hst
      exact ⟨c, hc, rfl, _, hs, fun _ hv => by cases hv⟩
    · exact hkeep hd r w hst
  | answer hc _ hs _ =>
    refine h.answer hc hs rfl rfl rfl rfl rfl fun d hd => ?_
    rcases mem_put hd with rfl | hd
    · exact Or.inl rfl
    · exact Or.inr hd
  | @answerLast c _ _ hc _ hs _ =>
    refine h.answer hc hs rfl rfl rfl rfl rfl fun d hd => ?_
    have hd : d ∈ (s.finish c .answered).connections := hd
    exact Or.inr (mem_finish.mp hd)
  | hangUp _ _ | drop _ _ =>
    exact h.of_connections rfl rfl rfl rfl rfl fun d hd => hkeep (mem_finish.mp hd).1
  | close _ _ _ _ _ =>
    exact h.of_connections rfl rfl rfl rfl rfl fun d hd => hkeep (mem_finish.mp hd).1
  | see hc _ _ _ _ =>
    refine h.of_connections rfl rfl rfl rfl rfl fun d hd r w hst => ?_
    rcases mem_put hd with rfl | ⟨hd, _⟩
    · exact hkeep hc r w hst
    · exact hkeep hd r w hst

theorem requests_run (store : Store.Memory) (es : List Event) :
    Requests store.records ((opening store).run es) :=
  run_invariant Requests.move es (requests_opening store)

/-! ## After the grace period -/

/-- What a server has stored and answered. -/
structure SameRecords (s t : Serving) : Prop where
  store : t.store = s.store
  completed : t.completed = s.completed
  answers : t.answers = s.answers

theorem SameRecords.refl (s : Serving) : SameRecords s s := ⟨rfl, rfl, rfl⟩

theorem SameRecords.trans {s t u : Serving} (h : SameRecords s t) (h' : SameRecords t u) : SameRecords s u :=
  ⟨h'.store.trans h.store, h'.completed.trans h.completed, h'.answers.trans h.answers⟩

/-- The server's own turn stores and answers nothing. -/
theorem turn_sameRecords {s t : Serving} (h : Move s .turn t) : SameRecords s t := by
  cases h <;> exact ⟨rfl, rfl, rfl⟩

/-- The grace period is over, or the server has returned. -/
def Over (s : Serving) : Prop := s.phase = .aborting ∨ ∃ outcome, s.phase = .returned outcome

/-- Then no connection does anything any more. -/
theorem Tasks.cut_of_over {s : Serving} (h : Tasks s) (ho : Over s) {c : Connection} (hc : c ∈ s.connections) :
    c.cut = true := by
  rcases ho with hp | ⟨outcome, hp⟩
  · exact (h.cut c hc).mpr hp
  · rw [(h.gone outcome hp).1] at hc
    cases hc

theorem over_move {s t : Serving} {e : Event} (h : Tasks s) (ho : Over s) (hm : Move s e t) :
    Over t ∧ SameRecords s t := by
  have hcut : ∀ {c : Connection}, c ∈ s.connections → c.cut = false → False := by
    intro c hc hu
    rw [h.cut_of_over ho hc] at hu
    cases hu
  have hphase : s.phase ≠ .accepting ∧ s.phase ≠ .draining := by
    rcases ho with hp | ⟨_, hp⟩ <;> simp [hp]
  cases hm with
  | rest | signal | join _ _ _ => exact ⟨ho, rfl, rfl, rfl⟩
  | arrive _ hp | stop hp _ | refuse hp _ | spawn hp _ => exact absurd hp hphase.1
  | expire hp | drained hp _ | abort hp _ _ _ => exact absurd hp hphase.2
  | aborted _ _ => exact ⟨Or.inr ⟨_, rfl⟩, rfl, rfl, rfl⟩
  | part hc hu _ | begin hc hu _ | storeFails hc hu _ | hangUp hc hu => exact (hcut hc hu).elim
  | store hc hu _ _ | answer hc hu _ _ | answerLast hc hu _ _ => exact (hcut hc hu).elim
  | close hc hu _ _ _ | see hc hu _ _ _ => exact (hcut hc hu).elim
  | drop _ _ => exact ⟨ho, rfl, rfl, rfl⟩

theorem over_run {s : Serving} (h : Tasks s) (ho : Over s) (later : List Event) :
    Over (s.run later) ∧ SameRecords s (s.run later) := by
  have hall := run_invariant (p := fun t => Tasks t ∧ Over t ∧ SameRecords s t)
    (fun ⟨ht, hot, hst⟩ hm => ⟨ht.move hm, (over_move ht hot hm).1, hst.trans (over_move ht hot hm).2⟩)
    later ⟨h, ho, .refl s⟩
  exact hall.2

/-- A server that has returned stays as it is. -/
theorem returned_run {s : Serving} (h : Tasks s) {outcome : Outcome} (hp : s.phase = .returned outcome)
    (later : List Event) : (s.run later).phase = .returned outcome ∧ (s.run later).connections = [] := by
  have hall := run_invariant (p := fun t => Tasks t ∧ t.phase = .returned outcome)
    (fun {t u e} ⟨ht, htp⟩ hm => by
      obtain ⟨hnone, hempty⟩ := ht.gone outcome htp
      refine ⟨ht.move hm, ?_⟩
      cases hm with
      | stop hp _ | drained hp _ | abort hp _ _ _ | aborted hp _ => rw [htp] at hp; cases hp
      | _ => exact htp)
    later ⟨h, hp⟩
  exact ⟨hall.2, (hall.1.gone outcome hall.2).1⟩

/-- For every order of events. At every moment the store holds what it held and one
    record for each insert it has taken, each of another request and with the number that
    request asks to store. When the server returns, its set of tasks is empty and no
    connection runs, and whatever comes later, nothing is stored or answered any more. A
    request whose insert is waiting at the turn that ends the grace period is never
    stored and never answered. That turn is the expiry of the server's timeout: with the
    time up and connections running, the server comes to it by its own turns
    (`expiry_cuts`). -/
theorem returned_leaves_nothing (store : Store.Memory) (es : List Event) :
    let s := (opening store).run es
    (s.store.records = store.records ++ s.completed.map (·.record) ∧ (s.completed.map (·.request)).Nodup ∧
      (s.begun.map (·.request)).Nodup ∧
      ∀ x ∈ s.completed, ∃ connection, ⟨x.request, connection, .storing x.record.value⟩ ∈ s.begun) ∧
    (∀ outcome, s.phase = .returned outcome → s.owned = [] ∧ s.connections = [] ∧
      ∀ later, (s.run later).phase = .returned outcome ∧ (s.run later).connections = [] ∧
        SameRecords s (s.run later)) ∧
    (∀ c request value, c ∈ s.connections → c.stage = .handling request (.storing value) →
      (s.step .turn).phase = .aborting → ∀ later,
        request ∉ ((s.step .turn).run later).completed.map (·.request) ∧
          request ∉ ((s.step .turn).run later).answers.map (·.request)) := by
  intro s
  have htasks : Tasks s := tasks_run store es
  have hrequests : Requests store.records s := requests_run store es
  refine ⟨⟨hrequests.records, hrequests.once, ?_, hrequests.completed⟩, ?_, ?_⟩
  · rw [hrequests.numbered]; exact List.nodup_range
  · intro outcome hp
    obtain ⟨hnone, hempty⟩ := htasks.gone outcome hp
    refine ⟨hempty, hnone, fun later => ?_⟩
    obtain ⟨hphase, hgone⟩ := returned_run htasks hp later
    exact ⟨hphase, hgone, (over_run htasks (Or.inr ⟨outcome, hp⟩) later).2⟩
  · intro c request value hc hst hab later
    have hat := hrequests.atHand c hc request _ hst
    have hmove : Move s .turn (s.step .turn) := step_move s .turn
    have hsame := (turn_sameRecords hmove).trans (over_run (htasks.move hmove) (Or.inl hab) later).2
    rw [hsame.completed, hsame.answers]
    exact ⟨hat.unstored value rfl, hat.unanswered⟩

/-- A request whose insert is still waiting when the grace period ends. -/
def stalledInsert : List Event :=
  [.connect, .turn, .request 0 (.storing 9) false, .signal, .turn, .notice 0, .expire]

theorem stalled_insert_is_lost :
    let s := (opening {}).run stalledInsert
    let t := (s.step .turn).run [.storeDone 0, .answer 0, .dropped 0, .turn, .turn]
    (s.step .turn).phase = .aborting ∧ t.phase = .returned .timedOut ∧ t.store.records = [] ∧
      0 ∉ t.completed.map (·.request) ∧ 0 ∉ t.answers.map (·.request) := by
  refine ⟨by decide, by decide, by decide, ?_⟩
  exact (returned_leaves_nothing {} stalledInsert).2.2
    { id := 0, stage := .handling 0 (.storing 9), last := true, noticed := true } 0 9 (by decide) rfl (by decide) _

end NumberRegistry.Serving
