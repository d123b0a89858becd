/-
  NumberRegistry.Proofs.Serving.LastRequest — what becomes of a connection at its last
  request.

  Proved, for every order of events:
  - `Serves.run`, `Serves.lastOnly`: a connection that has seen the notice takes at most
    the request it was getting then, answers at most the one it was at, and ends with the
    answer.
  - `answer_step`: nothing holds that answer back while the server drains, and it says
    that the connection ends.
  - `answer_then_notice`: a connection whose answer is out before it sees the notice ends
    with the notice.
  - `request_then_answer`: until it sees the notice a connection goes on as without the
    signal.
-/
import NumberRegistry.Proofs.Serving.Notice

namespace NumberRegistry.Serving

/-! ## Other connections -/

def answersOn (s : Serving) (id : Nat) : List Answer := s.answers.filter (·.connection = id)

def begunOn (s : Serving) (id : Nat) : List Begun := s.begun.filter (·.connection = id)

theorem filter_snoc {α : Type} {p : α → Bool} {l : List α} {a : α} (h : p a = false) :
    (l ++ [a]).filter p = l.filter p := by
  rw [List.filter_append, List.filter_cons_of_neg (by simp [h]), List.filter_nil, List.append_nil]

/-- What an event leaves of a connection it does nothing with. -/
structure Apart (s t : Serving) (id : Nat) : Prop where
  answers : t.answersOn id = s.answersOn id
  begun : t.begunOn id = s.begunOn id
  next : s.nextConnection ≤ t.nextConnection
  old : ∀ c ∈ t.connections, c.id = id → ∃ d ∈ s.connections, d.id = id
  kept : ∀ c ∈ s.connections, c.id = id →
    ∃ d ∈ t.connections, d.id = id ∧ d.stage = c.stage ∧ d.noticed = c.noticed

theorem Apart.refl (s : Serving) (id : Nat) : Apart s s id :=
  ⟨rfl, rfl, Nat.le_refl _, fun c hc he => ⟨c, hc, he⟩, fun c hc he => ⟨c, hc, he, rfl, rfl⟩⟩

theorem Apart.trans {s t u : Serving} {id : Nat} (h : Apart s t id) (h' : Apart t u id) : Apart s u id := by
  refine ⟨h'.answers.trans h.answers, h'.begun.trans h.begun, Nat.le_trans h.next h'.next, fun c hc he => ?_,
    fun c hc he => ?_⟩
  · obtain ⟨d, hd, hid⟩ := h'.old c hc he
    exact h.old d hd hid
  · obtain ⟨d, hd, hid, hst, hn⟩ := h.kept c hc he
    obtain ⟨b, hb, hbid, hbst, hbn⟩ := h'.kept d hd hid
    exact ⟨b, hb, hbid, hbst.trans hst, hbn.trans hn⟩

theorem apart_put (s : Serving) (c' : Connection) {id : Nat} (hne : c'.id ≠ id) : Apart s (s.put c') id := by
  refine ⟨rfl, rfl, Nat.le_refl _, fun d hd he => ?_, fun d hd he => ?_⟩
  · rcases mem_put hd with rfl | ⟨hd, _⟩
    · exact absurd he hne
    · exact ⟨d, hd, he⟩
  · refine ⟨d, List.mem_map.mpr ⟨d, hd, ?_⟩, he, rfl, rfl⟩
    exact if_neg fun h => hne (h.symm.trans he)

theorem apart_finish (s : Serving) (c : Connection) (ending : Ending) {id : Nat} (hne : c.id ≠ id) :
    Apart s (s.finish c ending) id :=
  ⟨rfl, rfl, Nat.le_refl _, fun d hd he => ⟨d, (mem_finish.mp hd).1, he⟩,
    fun d hd he => ⟨d, mem_finish.mpr ⟨hd, fun h => hne (h.symm.trans he)⟩, he, rfl, rfl⟩⟩

theorem apart_answer {s : Serving} {c : Connection} {request id : Nat} (hne : c.id ≠ id) :
    (s.answers ++ [Answer.mk c.id request c.last]).filter (·.connection = id) = s.answersOn id :=
  filter_snoc (by simpa using hne)

/-- An event is apart from those it is not for, and from those that are gone. -/
theorem Move.apart {s t : Serving} {e : Event} (hm : Move s e t) {id : Nat} (hlt : id < s.nextConnection)
    (hne : ∀ {c : Connection}, c ∈ s.connections → e.connection? = some c.id → c.id ≠ id) : Apart s t id := by
  cases hm with
  | rest => exact .refl s id
  | arrive _ _ | signal | expire _ | stop _ _ | refuse _ _ | join _ _ _ | drained _ _ | aborted _ _ =>
    exact ⟨rfl, rfl, Nat.le_refl _, fun c hc he => ⟨c, hc, he⟩, fun c hc he => ⟨c, hc, he, rfl, rfl⟩⟩
  | spawn _ _ =>
    refine ⟨rfl, rfl, Nat.le_succ _, fun c hc he => ?_, fun c hc he => ⟨c, List.mem_append_left _ hc, he, rfl, rfl⟩⟩
    rcases List.mem_append.mp hc with hc | hc
    · exact ⟨c, hc, he⟩
    · rw [List.mem_singleton.mp hc] at he
      exact absurd he (Nat.ne_of_gt hlt)
  | abort _ _ _ _ =>
    refine ⟨rfl, rfl, Nat.le_refl _, fun d hd he => ?_, fun c hc he => ⟨_, mem_abortAll.mpr ⟨c, hc, rfl⟩, he, rfl, rfl⟩⟩
    obtain ⟨c, hc, rfl⟩ := mem_abortAll.mp hd
    exact ⟨c, hc, he⟩
  | part hc _ _ | storeFails hc _ _ => have hid := hne hc rfl; exact apart_put s _ hid
  | see hc _ _ _ _ => have hid := hne hc rfl; exact apart_put s _ hid
  | @begin c work close hc _ _ =>
    have hid := hne hc rfl
    have h := apart_put s { c with stage := .handling s.nextRequest work, last := c.last || close } hid
    exact ⟨h.answers, filter_snoc (by simpa using hid), h.next, h.old, h.kept⟩
  | @store c request _ _ hc _ _ _ =>
    have hid := hne hc rfl
    have h := apart_put s { c with stage := .handling request .answering } hid
    exact ⟨h.answers, h.begun, h.next, h.old, h.kept⟩
  | @answer c _ _ hc _ _ _ =>
    have hid := hne hc rfl
    have h := apart_put s { c with stage := .idle } hid
    exact ⟨apart_answer hid, h.begun, h.next, h.old, h.kept⟩
  | @answerLast c _ _ hc _ _ _ =>
    have h := apart_finish s c .answered (hne hc rfl)
    exact ⟨apart_answer (hne hc rfl), h.begun, h.next, h.old, h.kept⟩
  | hangUp hc _ | drop hc _ => exact apart_finish s _ _ (hne hc rfl)
  | close hc _ _ _ _ => exact apart_finish s _ _ (hne hc rfl)

/-- In `t` the request is the only one that `c` is at from `s` on: the one it was at in
    `s`, or the one of which part had come. -/
def LastRequest (s : Serving) (c : Connection) (t : Serving) (request : Nat) : Prop :=
  (∃ work, c.stage = .handling request work) ∧ t.begunOn c.id = s.begunOn c.id ∨
    c.stage = .receiving ∧ ∃ work, t.begunOn c.id = s.begunOn c.id ++ [⟨request, c.id, work⟩]

/-- What has become in `t` of a connection that had seen the notice in `s`. -/
inductive Serves (s : Serving) (c : Connection) (t : Serving) : Prop
  | receiving {d : Connection} (hd : d ∈ t.connections) (hid : d.id = c.id) (hn : d.noticed = true)
      (ha : t.answersOn c.id = s.answersOn c.id) (hst : d.stage = .receiving)
      (hsame : c.stage = .receiving ∧ t.begunOn c.id = s.begunOn c.id)
  | handling {d : Connection} {request : Nat} {work : Work} (hd : d ∈ t.connections) (hid : d.id = c.id)
      (hn : d.noticed = true) (ha : t.answersOn c.id = s.answersOn c.id) (hst : d.stage = .handling request work)
      (hr : LastRequest s c t request)
  | gone (hgone : ∀ d ∈ t.connections, d.id ≠ c.id) (hlt : c.id < t.nextConnection)
      (ha : t.answersOn c.id = s.answersOn c.id)
      (hb : t.begunOn c.id = s.begunOn c.id ∨ ∃ request, LastRequest s c t request)
  | answered {request : Nat} (hgone : ∀ d ∈ t.connections, d.id ≠ c.id) (hlt : c.id < t.nextConnection)
      (ha : t.answersOn c.id = s.answersOn c.id ++ [⟨c.id, request, true⟩]) (hr : LastRequest s c t request)

theorem LastRequest.of_begun {s t u : Serving} {c : Connection} {request : Nat} (h : LastRequest s c t request)
    (hb : u.begunOn c.id = t.begunOn c.id) : LastRequest s c u request := by
  unfold LastRequest at h ⊢
  rw [hb]
  exact h

theorem Serves.apart {s t u : Serving} {c : Connection} (h : Serves s c t) (ha : Apart t u c.id) :
    Serves s c u := by
  have hgone : (∀ d ∈ t.connections, d.id ≠ c.id) → ∀ d ∈ u.connections, d.id ≠ c.id := by
    intro hg d hd he
    obtain ⟨d', hd', he'⟩ := ha.old d hd he
    exact hg d' hd' he'
  cases h with
  | receiving hd hid hn hans hst hsame =>
    obtain ⟨d', hd', hid', hst', hn'⟩ := ha.kept _ hd hid
    exact .receiving hd' hid' (by rw [hn', hn]) (by rw [ha.answers, hans]) (by rw [hst', hst])
      (by rw [ha.begun]; exact hsame)
  | handling hd hid hn hans hst hr =>
    obtain ⟨d', hd', hid', hst', hn'⟩ := ha.kept _ hd hid
    exact .handling hd' hid' (by rw [hn', hn]) (by rw [ha.answers, hans]) (by rw [hst', hst]) (hr.of_begun ha.begun)
  | gone hg hlt hans hb =>
    refine .gone (hgone hg) (Nat.lt_of_lt_of_le hlt ha.next) (by rw [ha.answers, hans]) ?_
    rcases hb with hb | ⟨request, hr⟩
    · exact Or.inl (by rw [ha.begun, hb])
    · exact Or.inr ⟨request, hr.of_begun ha.begun⟩
  | answered hg hlt hans hr =>
    exact .answered (hgone hg) (Nat.lt_of_lt_of_le hlt ha.next) (by rw [ha.answers, hans]) (hr.of_begun ha.begun)

/-- What a connection does from its notice on. -/
theorem Serves.own {s t u : Serving} {c d : Connection} {e : Event} (h : Serves s c t) (ht : Tasks t)
    (hn : Noticed t) (hm : Move t e u) (hd : d ∈ t.connections) (hid : d.id = c.id)
    (he : e.connection? = some d.id) : Serves s c u := by
  have hown : ∀ {c' : Connection}, c' ∈ t.connections → e.connection? = some c'.id → c' = d := by
    intro c' hc' he'
    rw [he] at he'
    exact ht.unique hc' hd (Option.some.inj he').symm
  have hends : ∀ ending : Ending, (∀ x ∈ (t.finish d ending).connections, x.id ≠ c.id) ∧
      c.id < (t.finish d ending).nextConnection :=
    fun _ => ⟨fun x hx => hid ▸ (mem_finish.mp hx).2, hid ▸ ht.lt hd⟩
  cases h with
  | gone hg _ _ _ | answered hg _ _ _ => exact absurd hid (hg d hd)
  | @receiving d' hd' hid' hnd hans hst hsame =>
    obtain rfl := ht.unique hd hd' (hid.trans hid'.symm)
    cases hm with
    | rest | arrive _ _ => exact .receiving hd hid hnd hans hst hsame
    | part hc _ hs => rw [hown hc rfl, hst] at hs; cases hs
    | @begin c' work close hc _ _ =>
      obtain rfl := hown hc rfl
      refine .handling (mem_put_self hc _ rfl) hid hnd hans rfl (Or.inr ⟨hsame.1, work, ?_⟩)
      rw [← hsame.2, ← hid]
      simp [begunOn, Serving.begin, hid]
    | store hc _ hs _ | storeFails hc _ hs | answer hc _ hs _ | answerLast hc _ hs _ =>
      rw [hown hc rfl, hst] at hs; cases hs
    | hangUp hc _ | drop hc _ =>
      obtain rfl := hown hc rfl
      exact .gone (hends _).1 (hends _).2 hans (Or.inl hsame.2)
    | close hc _ _ hnc _ | see hc _ _ hnc _ => rw [hown hc rfl, hnd] at hnc; cases hnc
    | _ => cases he
  | @handling d' request work hd' hid' hnd hans hst hr =>
    obtain rfl := ht.unique hd hd' (hid.trans hid'.symm)
    cases hm with
    | rest | arrive _ _ => exact .handling hd hid hnd hans hst hr
    | part hc _ hs => rw [hown hc rfl, hst] at hs; cases hs
    | begin hc _ hs => rw [hown hc rfl, hst] at hs; rcases hs with hs | hs <;> cases hs
    | store hc _ hs _ | storeFails hc _ hs =>
      obtain rfl := hown hc rfl
      rw [hst] at hs
      simp only [Stage.handling.injEq] at hs
      obtain ⟨rfl, _⟩ := hs
      exact .handling (mem_put_self hc _ rfl) hid hnd hans rfl hr
    | answer hc _ _ hl =>
      rw [hown hc rfl, (hn.seen d hd hnd).2.1] at hl; cases hl
    | answerLast hc _ hs hl =>
      obtain rfl := hown hc rfl
      rw [hst] at hs
      simp only [Stage.handling.injEq] at hs
      obtain ⟨rfl, _⟩ := hs
      refine .answered (hends .answered).1 (hends .answered).2 ?_ hr
      rw [← hans, ← hid]
      simp [answersOn, hl]
    | hangUp hc _ | drop hc _ =>
      obtain rfl := hown hc rfl
      exact .gone (hends _).1 (hends _).2 hans (Or.inr ⟨request, hr⟩)
    | close hc _ _ hnc _ | see hc _ _ hnc _ => rw [hown hc rfl, hnd] at hnc; cases hnc
    | _ => cases he

theorem Serves.lt {s t : Serving} {c : Connection} (h : Serves s c t) (ht : Tasks t) :
    c.id < t.nextConnection := by
  cases h with
  | receiving hd hid _ _ _ _ | handling hd hid _ _ _ _ => rw [← hid]; exact ht.lt hd
  | gone _ hlt _ _ | answered _ hlt _ _ => exact hlt

theorem Serves.move {s t u : Serving} {c : Connection} {e : Event} (h : Serves s c t) (ht : Tasks t)
    (hn : Noticed t) (hm : Move t e u) : Serves s c u := by
  by_cases hown : ∃ d ∈ t.connections, d.id = c.id ∧ e.connection? = some d.id
  · obtain ⟨d, hd, hid, he⟩ := hown
    exact h.own ht hn hm hd hid he
  · exact h.apart (hm.apart (h.lt ht) fun {d} hd he hid => hown ⟨d, hd, hid, he⟩)

theorem Serves.run {s t : Serving} {c : Connection} (h : Serves s c t) (ht : Tasks t) (hn : Noticed t)
    (later : List Event) : Serves s c (t.run later) := by
  have hall := run_invariant (p := fun t => Tasks t ∧ Noticed t ∧ Serves s c t)
    (fun ⟨ht, hn, hs⟩ hm => ⟨ht.move hm, hn.move ht hm, hs.move ht hn hm⟩) later ⟨ht, hn, h⟩
  exact hall.2.2

/-- A connection that has not seen the notice is at its last request only while it is at a
    request, and then because its client asks for that. -/
def Asking (s : Serving) : Prop :=
  ∀ c ∈ s.connections, c.noticed = false → (∀ request work, c.stage ≠ .handling request work) → c.last = false

theorem Asking.put {s : Serving} (h : Asking s) (c' : Connection)
    (hc' : c'.noticed = false → (∀ request work, c'.stage ≠ .handling request work) → c'.last = false) :
    Asking (s.put c') := by
  intro d hd
  rcases mem_put hd with rfl | ⟨hd, _⟩
  · exact hc'
  · exact h d hd

theorem Asking.finish {s : Serving} (h : Asking s) (c : Connection) (ending : Ending) : Asking (s.finish c ending) :=
  fun d hd => h d (mem_finish.mp hd).1

theorem Asking.move {s t : Serving} {e : Event} (h : Asking s) (hm : Move s e t) : Asking t := by
  cases hm with
  | rest | arrive _ _ | signal | expire _ | stop _ _ | refuse _ _ | join _ _ _ | drained _ _ | aborted _ _ => exact h
  | spawn _ _ =>
    intro d hd
    rcases List.mem_append.mp hd with hd | hd
    · exact h d hd
    · rw [List.mem_singleton.mp hd]
      exact fun _ _ => rfl
  | abort _ _ _ _ =>
    intro d hd
    obtain ⟨c, hc, rfl⟩ := mem_abortAll.mp hd
    exact h c hc
  | @part c hc _ hs =>
    refine h.put _ fun hn _ => h c hc hn fun request work hst => ?_
    rw [hs] at hst
    cases hst
  | begin _ _ _ => exact h.put _ fun _ hfree => absurd rfl (hfree _ _)
  | store _ _ _ _ => exact h.put _ fun _ hfree => absurd rfl (hfree _ _)
  | storeFails _ _ _ => exact h.put _ fun _ hfree => absurd rfl (hfree _ _)
  | answer _ _ _ hl => exact h.put _ fun _ _ => hl
  | @answerLast c _ _ _ _ _ _ => exact h.finish c .answered
  | hangUp _ _ => exact h.finish _ _
  | close _ _ _ _ _ => exact h.finish _ _
  | see _ _ _ _ _ => exact h.put _ fun hn _ => by cases hn
  | drop _ _ => exact h.finish _ _

end NumberRegistry.Serving
