/-
  NumberRegistry.Proofs.Serving.Moves — what one event does to a server.

  Every step is one of the moves of `Move`, with what has to hold for it (`step_move`).
  What holds of whole runs is shown move by move and then along the run (`run_invariant`).
  Where it is enough to know who comes and who goes, `Succession` says it of all moves.
-/
import NumberRegistry.Proofs.Store.Memory
import NumberRegistry.Serving

namespace NumberRegistry.Serving

/-! ## Connections -/

theorem connection?_some {s : Serving} {id : Nat} {c : Connection} (h : s.connection? id = some c) :
    c ∈ s.connections ∧ c.id = id :=
  ⟨List.mem_of_find?_eq_some h, by simpa using List.find?_some h⟩

theorem mem_put {s : Serving} {c d : Connection} (h : d ∈ (s.put c).connections) :
    d = c ∨ d ∈ s.connections ∧ d.id ≠ c.id := by
  obtain ⟨x, hx, rfl⟩ := List.mem_map.mp h
  split
  · exact Or.inl rfl
  · rename_i hne; exact Or.inr ⟨hx, hne⟩

theorem mem_finish {s : Serving} {c d : Connection} {ending : Ending} :
    d ∈ (s.finish c ending).connections ↔ d ∈ s.connections ∧ d.id ≠ c.id := by
  simp [finish]

theorem mem_abortAll {s : Serving} {d : Connection} :
    d ∈ s.abortAll.connections ↔ ∃ c ∈ s.connections, { c with cut := true } = d := List.mem_map

/-- A connection that is replaced keeps its place. -/
theorem ids_put {s : Serving} (c : Connection) :
    (s.put c).connections.map (·.id) = s.connections.map (·.id) := by
  simp only [put, List.map_map]
  refine List.map_congr_left fun d _ => ?_
  simp only [Function.comp_apply]
  split
  · rename_i h; exact h.symm
  · rfl

theorem ids_abortAll (s : Serving) : s.abortAll.connections.map (·.id) = s.connections.map (·.id) := by
  simp [abortAll, Function.comp_def]

theorem isRunning_iff {s : Serving} {id : Nat} : s.isRunning id = true ↔ ∃ c ∈ s.connections, c.id = id := by
  simp [isRunning]

/-! ## The set of tasks -/

theorem joinNext_none {s : Serving} (h : s.joinNext = none) {id : Nat} (hid : id ∈ s.owned) :
    s.isRunning id = true := by
  unfold joinNext at h
  split at h
  · cases h
  · rename_i hn
    simp only [List.any_eq_true, not_exists, not_and] at hn
    simpa using hn id hid

/-- One that has ended is taken out, and none that runs. -/
theorem joinNext_some {s t : Serving} (h : s.joinNext = some t) :
    ∃ owned, t = { s with owned } ∧ owned.length < s.owned.length ∧
      (∀ id ∈ owned, id ∈ s.owned) ∧ ∀ id ∈ s.owned, s.isRunning id = true → id ∈ owned := by
  unfold joinNext at h
  split at h
  · rename_i hany
    cases h
    obtain ⟨id, hid, hend⟩ := List.any_eq_true.mp hany
    refine ⟨_, rfl, ?_, fun _ => List.mem_of_mem_eraseP, fun i hi hrun => ?_⟩
    · have := List.length_eraseP_of_mem (p := (!s.isRunning ·)) hid hend
      have := List.length_pos_of_mem hid
      omega
    · exact (List.mem_eraseP_of_neg (by simp [hrun])).mpr hi
  · cases h

/-! ## Moves -/

/-- What an event can do. -/
inductive Move (s : Serving) : Event → Serving → Prop
  | rest {e : Event} : Move s e s
  | arrive {e : Event} (next : Incoming) (hp : s.phase = .accepting) :
      Move s e { s with incoming := s.incoming ++ [next] }
  | signal : Move s .signal { s with signalled := true }
  | expire (hp : s.phase = .draining) : Move s .expire { s with expired := true }
  | stop (hp : s.phase = .accepting) (hs : s.signalled = true) : Move s .turn s.stop
  | refuse {rest : List Incoming} (hp : s.phase = .accepting) (hs : s.signalled = false) :
      Move s .turn { s with incoming := rest }
  | spawn {rest : List Incoming} (hp : s.phase = .accepting) (hs : s.signalled = false) :
      Move s .turn
        { s with
          incoming := rest
          connections := s.connections ++ [{ id := s.nextConnection }]
          owned := s.owned ++ [s.nextConnection]
          nextConnection := s.nextConnection + 1 }
  | join {owned : List Nat} (hlen : owned.length < s.owned.length) (hsub : ∀ id ∈ owned, id ∈ s.owned)
      (hrun : ∀ id ∈ s.owned, s.isRunning id = true → id ∈ owned) : Move s .turn { s with owned }
  | drained (hp : s.phase = .draining) (ho : s.owned = []) :
      Move s .turn { s with phase := .returned .graceful }
  | abort (hp : s.phase = .draining) (hx : s.expired = true) (ho : s.owned ≠ [])
      (hrun : ∀ id ∈ s.owned, s.isRunning id = true) : Move s .turn s.abortAll
  | aborted (hp : s.phase = .aborting) (ho : s.owned = []) :
      Move s .turn { s with phase := .returned .timedOut }
  | part {c : Connection} (hc : c ∈ s.connections) (hu : c.cut = false) (hs : c.stage = .idle) :
      Move s (.part c.id) (s.put { c with stage := .receiving })
  | begin {c : Connection} {work : Work} {close : Bool} (hc : c ∈ s.connections) (hu : c.cut = false)
      (hs : c.stage = .idle ∨ c.stage = .receiving) :
      Move s (.request c.id work close) (s.begin c work close)
  | store {c : Connection} {request : Nat} {value : Int32} {record : Store.Record Nat}
      (hc : c ∈ s.connections) (hu : c.cut = false) (hs : c.stage = .handling request (.storing value))
      (hr : (s.store.insert value).1 = .ok record) :
      Move s (.storeDone c.id)
        { s.put { c with stage := .handling request .answering } with
          store := (s.store.insert value).2
          completed := s.completed ++ [⟨request, record⟩] }
  | storeFails {c : Connection} {request : Nat} {value : Int32} (hc : c ∈ s.connections) (hu : c.cut = false)
      (hs : c.stage = .handling request (.storing value)) :
      Move s (.storeDone c.id) (s.put { c with stage := .handling request .answering })
  | answer {c : Connection} {request : Nat} {work : Work} (hc : c ∈ s.connections) (hu : c.cut = false)
      (hs : c.stage = .handling request work) (hl : c.last = false) :
      Move s (.answer c.id)
        { s.put { c with stage := .idle } with answers := s.answers ++ [⟨c.id, request, c.last⟩] }
  | answerLast {c : Connection} {request : Nat} {work : Work} (hc : c ∈ s.connections) (hu : c.cut = false)
      (hs : c.stage = .handling request work) (hl : c.last = true) :
      Move s (.answer c.id)
        { s.finish c .answered with answers := s.answers ++ [⟨c.id, request, c.last⟩] }
  | hangUp {c : Connection} (hc : c ∈ s.connections) (hu : c.cut = false) :
      Move s (.hangUp c.id) (s.finish c .hungUp)
  | close {c : Connection} (hc : c ∈ s.connections) (hu : c.cut = false) (hp : s.phase ≠ .accepting)
      (hn : c.noticed = false) (hs : c.stage = .idle) : Move s (.notice c.id) (s.finish c .idle)
  | see {c : Connection} (hc : c ∈ s.connections) (hu : c.cut = false) (hp : s.phase ≠ .accepting)
      (hn : c.noticed = false) (hs : c.stage ≠ .idle) :
      Move s (.notice c.id) (s.put { c with last := true, noticed := true })
  | drop {c : Connection} (hc : c ∈ s.connections) (hu : c.cut = true) :
      Move s (.dropped c.id) (s.finish c .cut)

theorem joinNext_move {s t : Serving} (h : s.joinNext = some t) : Move s .turn t := by
  obtain ⟨owned, rfl, hlen, hsub, hrun⟩ := joinNext_some h
  exact .join hlen hsub hrun

theorem turn_move (s : Serving) : Move s .turn s.turn := by
  unfold turn
  split
  · rename_i hp
    split
    · rename_i hs; exact .stop hp hs
    · rename_i hs
      have hs : s.signalled = false := by simpa using hs
      split
      · rename_i next rest hi
        cases next with
        | client => exact .spawn hp hs
        | failure => exact .refuse hp hs
      · cases hj : s.joinNext with
        | none => exact .rest
        | some t => exact joinNext_move hj
  · rename_i hp
    cases hj : s.joinNext with
    | some t => exact joinNext_move hj
    | none =>
      simp only [Option.getD_none]
      split
      · rename_i ho; exact .drained hp ho
      · rename_i ho
        split
        · rename_i hx; exact .abort hp hx ho fun id hid => joinNext_none hj hid
        · exact .rest
  · rename_i hp
    cases hj : s.joinNext with
    | some t => exact joinNext_move hj
    | none =>
      simp only [Option.getD_none]
      split
      · rename_i ho; exact .aborted hp ho
      · exact .rest
  · exact .rest

theorem server_move (s : Serving) (e : Event) : Move s e (s.onServer e) := by
  unfold onServer
  split
  · split
    · rename_i hp; exact .arrive .client hp
    · exact .rest
  · split
    · rename_i hp; exact .arrive .failure hp
    · exact .rest
  · exact .signal
  · split
    · rename_i hp; exact .expire hp
    · exact .rest
  · exact turn_move s
  · exact .rest

theorem insert_move {s : Serving} {c : Connection} {request : Nat} {value : Int32} (hc : c ∈ s.connections)
    (hu : c.cut = false) (hs : c.stage = .handling request (.storing value)) :
    Move s (.storeDone c.id) (s.insert c request value) := by
  unfold insert
  split
  · rename_i record store hr
    have hok : (s.store.insert value).1 = .ok record := by rw [hr]
    have hmove := Move.store hc hu hs hok
    rw [hr] at hmove
    exact hmove
  · rename_i cause store hr
    rw [Store.Memory.insert_error hr]
    exact .storeFails hc hu hs

theorem connection_move {s : Serving} {c : Connection} {e : Event} (hc : c ∈ s.connections)
    (he : e.connection? = some c.id) (hu : c.cut = false) : Move s e (s.onConnection c e) := by
  cases e <;> simp only [Event.connection?, reduceCtorEq, Option.some.injEq] at he <;> subst he <;>
    simp only [onConnection]
  case part =>
    split
    · rename_i hs; exact .part hc hu hs
    · exact .rest
  case request =>
    split
    · exact .rest
    · rename_i hs
      refine .begin hc hu ?_
      cases hst : c.stage with
      | idle => exact Or.inl rfl
      | receiving => exact Or.inr rfl
      | handling r w => exact absurd hst (hs r w)
  case storeDone =>
    split
    · rename_i hs; exact insert_move hc hu hs
    · exact .rest
  case answer =>
    split
    · rename_i hs
      unfold respond
      split
      · rename_i hl; exact .answerLast hc hu hs hl
      · rename_i hl; exact .answer hc hu hs (by simpa using hl)
    · exact .rest
  case hangUp => exact .hangUp hc hu
  case notice =>
    unfold see
    split
    · exact .rest
    · rename_i hp
      rw [not_or] at hp
      have hn : c.noticed = false := by simpa using hp.2
      split
      · rename_i hs; exact .close hc hu hp.1 hn hs
      · rename_i hs; exact .see hc hu hp.1 hn hs
  case dropped => exact .rest

/-- Every step is a move. -/
theorem step_move (s : Serving) (e : Event) : Move s e (s.step e) := by
  unfold step
  split
  · rename_i id he
    split
    · rename_i c hfind
      obtain ⟨hc, rfl⟩ := connection?_some hfind
      split
      · rename_i hu
        cases e <;> simp only [Event.connection?, reduceCtorEq, Option.some.injEq] at he <;> subst he <;>
          simp only [onCut]
        case dropped => exact .drop hc hu
        all_goals exact .rest
      · rename_i hu; exact connection_move hc he (by simpa using hu)
    · exact .rest
  · exact server_move s e

/-! ## Who comes and who goes -/

/-- Who is served after an event, and who has been answered or has ended with it. -/
structure Succession (s t : Serving) : Prop where
  signalled : s.signalled = true → t.signalled = true ∧ t.nextConnection = s.nextConnection
  next : s.nextConnection ≤ t.nextConnection
  /-- Before the signal a connection may be new. -/
  connections : ∀ d ∈ t.connections, (s.signalled = false ∧ d.id = s.nextConnection) ∨
    ∃ c ∈ s.connections, c.id = d.id ∧ (c.noticed = true → d.noticed = true)
  answers : ∀ a ∈ t.answers, a ∈ s.answers ∨ ∃ c ∈ s.connections, c.id = a.connection
  ended : ∀ x ∈ t.ended, x ∈ s.ended ∨ ∃ c ∈ s.connections, c.id = x.connection ∧ x.busy = c.noticed
  kept : ∀ x ∈ s.ended, x ∈ t.ended

theorem Succession.refl (s : Serving) : Succession s s :=
  ⟨fun h => ⟨h, rfl⟩, Nat.le_refl _, fun c hc => Or.inr ⟨c, hc, rfl, id⟩, fun _ ha => Or.inl ha,
    fun _ hx => Or.inl hx, fun _ hx => hx⟩

theorem succession_put {s : Serving} {c : Connection} (hc : c ∈ s.connections) (c' : Connection) (hid : c'.id = c.id)
    (hn : c.noticed = true → c'.noticed = true) : Succession s (s.put c') := by
  refine { Succession.refl s with connections := fun d hd => Or.inr ?_ }
  rcases mem_put hd with rfl | ⟨hd, _⟩
  · exact ⟨c, hc, hid.symm, hn⟩
  · exact ⟨d, hd, rfl, id⟩

theorem succession_finish {s : Serving} {c : Connection} (hc : c ∈ s.connections) (ending : Ending) :
    Succession s (s.finish c ending) := by
  refine { Succession.refl s with
    connections := fun d hd => Or.inr ⟨d, (mem_finish.mp hd).1, rfl, id⟩
    ended := fun x hx => ?_
    kept := fun _ hx => List.mem_append_left _ hx }
  rcases List.mem_append.mp hx with hx | hx
  · exact Or.inl hx
  · rw [List.mem_singleton.mp hx]; exact Or.inr ⟨c, hc, rfl, rfl⟩

theorem succession_answer {s : Serving} {c : Connection} (hc : c ∈ s.connections) {request : Nat} :
    ∀ a ∈ s.answers ++ [Answer.mk c.id request c.last], a ∈ s.answers ∨ ∃ d ∈ s.connections, d.id = a.connection := by
  intro a ha
  rcases List.mem_append.mp ha with ha | ha
  · exact Or.inl ha
  · rw [List.mem_singleton.mp ha]; exact Or.inr ⟨c, hc, rfl⟩

theorem Move.succession {s t : Serving} {e : Event} (hm : Move s e t) : Succession s t := by
  have hsame := Succession.refl s
  cases hm with
  | rest => exact hsame
  | arrive _ _ | expire _ | stop _ _ | refuse _ _ | join _ _ _ | drained _ _ | aborted _ _ =>
    exact ⟨hsame.signalled, hsame.next, hsame.connections, hsame.answers, hsame.ended, hsame.kept⟩
  | signal => exact ⟨fun _ => ⟨rfl, rfl⟩, hsame.next, hsame.connections, hsame.answers, hsame.ended, hsame.kept⟩
  | spawn _ hs =>
    refine ⟨fun h => ?_, Nat.le_succ _, fun d hd => ?_, hsame.answers, hsame.ended, hsame.kept⟩
    · rw [hs] at h; cases h
    · rcases List.mem_append.mp hd with hd | hd
      · exact Or.inr ⟨d, hd, rfl, id⟩
      · rw [List.mem_singleton.mp hd]; exact Or.inl ⟨hs, rfl⟩
  | abort _ _ _ _ =>
    refine ⟨hsame.signalled, hsame.next, fun d hd => ?_, hsame.answers, hsame.ended, hsame.kept⟩
    obtain ⟨c, hc, rfl⟩ := mem_abortAll.mp hd
    exact Or.inr ⟨c, hc, rfl, id⟩
  | part hc _ _ | storeFails hc _ _ => exact succession_put hc _ rfl id
  | see hc _ _ _ _ => exact succession_put hc _ rfl fun _ => rfl
  | @begin c work close hc _ _ =>
    have h := succession_put hc { c with stage := .handling s.nextRequest work, last := c.last || close } rfl id
    exact ⟨h.signalled, h.next, h.connections, h.answers, h.ended, h.kept⟩
  | @store c request _ _ hc _ _ _ =>
    have h := succession_put hc { c with stage := .handling request .answering } rfl id
    exact ⟨h.signalled, h.next, h.connections, h.answers, h.ended, h.kept⟩
  | @answer c _ _ hc _ _ _ =>
    have h := succession_put hc { c with stage := .idle } rfl id
    exact ⟨h.signalled, h.next, h.connections, succession_answer hc, h.ended, h.kept⟩
  | answerLast hc _ _ _ =>
    have h := succession_finish hc .answered
    exact ⟨h.signalled, h.next, h.connections, succession_answer hc, h.ended, h.kept⟩
  | hangUp hc _ | drop hc _ => exact succession_finish hc _
  | close hc _ _ _ _ => exact succession_finish hc _

/-! ## Runs -/

/-- What every move keeps holds all along a run. -/
theorem run_invariant {p : Serving → Prop} (hstep : ∀ {s t : Serving} {e : Event}, p s → Move s e t → p t)
    (es : List Event) {s : Serving} (h : p s) : p (s.run es) := by
  induction es generalizing s with
  | nil => exact h
  | cons e es ih => exact ih (hstep h (step_move s e))

end NumberRegistry.Serving
