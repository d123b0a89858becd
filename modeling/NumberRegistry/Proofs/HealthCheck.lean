/-
  NumberRegistry.Proofs.HealthCheck — when the store is pinged, and what is counted.

  A ping has a plan: how long it takes, if it ends at all, and whether it fails. `pingStart`
  says from the plans alone when each ping starts: one period after the start the first,
  and any other when its tick comes or when the ping before it is answered, whichever is
  later. `OnSchedule` says of a check that what it has done up to a time is what the plans
  say. Each thing that happens to it keeps that (`OnSchedule.step`), the fuel of a sleep is
  enough for all that happens in it (`advance_settled`), and a sleep goes on where the one
  before it ended (`OnSchedule.sleep`).

  Proved:
  - `health_check_schedule`: after any sleeps, whatever the plans, just the pings have
    started that were to start by then, and just the failures are counted of those that
    were answered by then; the check goes on until it is stopped, and is over then.
-/
import NumberRegistry.HealthCheck
import NumberRegistry.Proofs.Metrics.Exposition

namespace NumberRegistry.HealthCheck

open Store

/-! ## The schedule -/

/-- When the ping `k` starts, counting from 0, if it does. -/
def pingStart (period : Nat) (plans : Nat → Plan) : Nat → Delay
  | 0 => some period
  | k + 1 => (pingStart period plans k).bind fun s => (plans k).delay.map fun d => max ((k + 2) * period) (s + d)

/-- When the ping `k` is answered, if it is. -/
def pingEnd (period : Nat) (plans : Nat → Plan) (k : Nat) : Delay :=
  (pingStart period plans k).bind fun s => (plans k).delay.map (s + ·)

/-- A ping fails by its plan, or if all of the store's pings do. -/
def fails (plans : Nat → Plan) (switched : Bool) (k : Nat) : Bool := (plans k).failure.isSome || switched

variable {P : Nat} {plans : Nat → Plan}

theorem pingStart_succ (k : Nat) : pingStart P plans (k + 1) = (pingEnd P plans k).map (max ((k + 2) * P)) := by
  simp only [pingStart, pingEnd]
  cases pingStart P plans k with
  | none => rfl
  | some s => simp only [Option.bind_some, Option.map_map]; rfl

theorem pingStart_le_pingEnd {k u : Nat} (h : pingEnd P plans k = some u) : ∃ s, pingStart P plans k = some s ∧ s ≤ u := by
  obtain ⟨s, hs, hd⟩ := Option.bind_eq_some_iff.mp h
  obtain ⟨d, -, rfl⟩ := Option.map_eq_some_iff.mp hd
  exact ⟨s, hs, Nat.le_add_right s d⟩

/-- No ping starts before its tick. -/
theorem le_pingStart {k s : Nat} (h : pingStart P plans k = some s) : (k + 1) * P ≤ s := by
  cases k with
  | zero => simp only [pingStart, Option.some.injEq] at h; omega
  | succ k =>
    rw [pingStart_succ] at h
    obtain ⟨u, -, rfl⟩ := Option.map_eq_some_iff.mp h
    exact Nat.le_max_left _ _

/-- Pings start in their order, and a ping only after those before it. -/
theorem pingStart_mono {j k s : Nat} (hjk : j ≤ k) (h : pingStart P plans k = some s) :
    ∃ r, pingStart P plans j = some r ∧ r ≤ s := by
  induction k generalizing s with
  | zero => exact ⟨s, by rwa [Nat.le_zero.mp hjk], Nat.le_refl s⟩
  | succ k ih =>
    obtain rfl | hlt := Nat.eq_or_lt_of_le hjk
    · exact ⟨s, h, Nat.le_refl s⟩
    rw [pingStart_succ] at h
    obtain ⟨u, hu, rfl⟩ := Option.map_eq_some_iff.mp h
    obtain ⟨s, hs, hsu⟩ := pingStart_le_pingEnd hu
    obtain ⟨r, hr, hrs⟩ := ih (Nat.le_of_lt_succ hlt) hs
    exact ⟨r, hr, Nat.le_trans hrs (Nat.le_trans hsu (Nat.le_max_right _ _))⟩

/-- Pings that are answered at once all start at their ticks. -/
theorem pingStart_prompt {n k : Nat} (h : ∀ j < n, (plans j).delay = some 0) (hk : k ≤ n) :
    pingStart P plans k = some ((k + 1) * P) := by
  induction k with
  | zero => simp [pingStart]
  | succ k ih =>
    have hle : (k + 1) * P ≤ (k + 2) * P := Nat.mul_le_mul_right P (by omega)
    simp only [pingStart, ih (by omega), h k (by omega), Option.bind_some, Option.map_some, Nat.add_zero,
      Nat.max_eq_left hle]

/-! ## Where a check is on its schedule -/

/-- How many pings have started and how many are answered, the ping under way, and since
    when there is none, by the schedule. -/
inductive Stage (P : Nat) (plans : Nat → Plan) : Nat → Nat → Option (Delay × Option Store.Error) → Nat → Prop
  | first : Stage P plans 0 0 none 0
  | waiting {k u : Nat} (h : pingEnd P plans k = some u) : Stage P plans (k + 1) (k + 1) none u
  | pinging {k s free : Nat} (h : pingStart P plans k = some s) :
      Stage P plans (k + 1) k (some ((plans k).delay.map (s + ·), (plans k).failure)) free

/-- The ping under way is the first that is not answered. -/
theorem Stage.busy {started answered free : Nat} {wake : Delay} {failure : Option Store.Error}
    (h : Stage P plans started answered (some (wake, failure)) free) :
    started = answered + 1 ∧ pingEnd P plans answered = wake ∧ (plans answered).failure = failure := by
  generalize hc : some (wake, failure) = current at h
  cases h with
  | first => cases hc
  | waiting _ => cases hc
  | pinging hstart =>
    simp only [Option.some.injEq, Prod.mk.injEq] at hc
    obtain ⟨rfl, rfl⟩ := hc
    exact ⟨rfl, by rw [pingEnd, hstart]; rfl, rfl⟩

theorem Stage.idle {started answered free : Nat} (h : Stage P plans started answered none free) :
    answered = started ∧ pingStart P plans started = some (max ((started + 1) * P) free) := by
  cases h with
  | first => simp [pingStart]
  | waiting hend => exact ⟨rfl, by rw [pingStart_succ, hend]; rfl⟩

/-- What a check has done up to the time `t` is what the plans say; its script has the
    plans of the first `n` pings. -/
structure OnSchedule (P : Nat) (plans : Nat → Plan) (switched : Bool) (n t answered : Nat) (h : HealthCheck) :
    Prop where
  period_eq : h.period = P
  running : h.stopped = false
  ticker_eq : h.ticker = ⟨P, (h.started + 1) * P⟩
  script_eq : ∀ k, h.started + k < n → h.script.planOf .ping k = plans (h.started + k)
  switched_eq : h.store.failures.ping = switched
  stage : Stage P plans h.started answered h.current h.free
  began : ∀ k < h.started, ∃ s, pingStart P plans k = some s ∧ s ≤ t
  ended : ∀ k < answered, ∃ u, pingEnd P plans k = some u ∧ u ≤ t
  counted : h.metrics.healthFailures = (List.range answered).countP (fails plans switched)

/-- Nothing is left to happen up to the time `t`. -/
def Settled (t : Nat) (h : HealthCheck) : Prop :=
  match h.current with
  | none => t < h.nextStart
  | some (wake, _) => ∀ u, wake = some u → t < u

/-- How much can happen up to the time `t`, at most. -/
def remaining (t : Nat) (h : HealthCheck) : Nat := 2 * (t / h.period - h.started) + h.current.toList.length

variable {switched : Bool} {n t answered : Nat} {h : HealthCheck}

theorem onSchedule_initial (store : Memory) {script : Script} (hscript : ∀ k < n, script.planOf .ping k = plans k) :
    OnSchedule P plans store.failures.ping n 0 0 { period := P, store, script } where
  period_eq := rfl
  running := rfl
  ticker_eq := by simp [Ticker.tick]
  script_eq := fun k hk => by simpa using hscript k (by simpa using hk)
  switched_eq := rfl
  stage := .first
  began := by simp
  ended := by simp
  counted := rfl

/-- The next ping starts as the schedule says. -/
theorem OnSchedule.nextStart_eq (hs : OnSchedule P plans switched n t answered h) (hidle : h.current = none) :
    answered = h.started ∧ pingStart P plans h.started = some h.nextStart := by
  have hnext : h.nextStart = max ((h.started + 1) * P) h.free := by rw [nextStart, Ticker.tick, hs.ticker_eq]
  rw [hnext]
  exact (hidle ▸ hs.stage).idle

theorem OnSchedule.startPing (hs : OnSchedule P plans switched n t answered h) (hidle : h.current = none)
    (hlt : h.started < n) (hle : h.nextStart ≤ t) : OnSchedule P plans switched n t answered h.startPing := by
  obtain ⟨rfl, hstart⟩ := hs.nextStart_eq hidle
  have hplan : h.script.takePing.1 = plans h.started := hs.script_eq 0 hlt
  refine { hs with ticker_eq := ?_, script_eq := fun k hk => ?_, stage := ?_, began := fun k hk => ?_ }
  · have hdue : (h.started + 1 + 1) * P = (h.started + 1) * P + P := Nat.succ_mul _ _
    show (h.ticker.tick h.free).2 = ⟨P, (h.started + 1 + 1) * P⟩
    rw [Ticker.tick, hs.ticker_eq, hdue]
  · show h.script.takePing.2.planOf .ping k = _
    have hk : h.started + (k + 1) < n := by
      have : h.started + 1 + k < n := hk
      omega
    rw [Script.planOf_takePing, if_pos rfl, hs.script_eq (k + 1) hk]
    exact congrArg plans (show h.started + (k + 1) = h.started + 1 + k by omega)
  · show Stage P plans (h.started + 1) h.started
      (some (h.script.takePing.1.delay.map (h.nextStart + ·), h.script.takePing.1.failure)) h.free
    rw [hplan]
    exact .pinging hstart
  · obtain hk | rfl := Nat.lt_or_eq_of_le (Nat.le_of_lt_succ hk)
    · exact hs.began k hk
    · exact ⟨_, hstart, hle⟩

/-- What is counted when a ping is answered. -/
theorem healthFailures_endPing (u : Nat) (failure : Option Store.Error) :
    (h.endPing u failure).metrics.healthFailures =
      h.metrics.healthFailures + (failure.isSome || h.store.failures.ping).toNat := by
  cases failure with
  | some cause => simp [endPing, countResult, Metrics.countHealthFailure]
  | none =>
    cases hp : h.store.failures.ping <;>
      simp [endPing, countResult, Memory.ping, hp, Except.isOk, Except.toBool, Metrics.countHealthFailure]

/-- A ping that is answered changes the store and the metrics, and lets the check wait again. -/
theorem endPing_eq (u : Nat) (failure : Option Store.Error) :
    ∃ store metrics, h.endPing u failure = { h with current := none, free := u, store, metrics } ∧
      store.failures = h.store.failures := by
  cases failure with
  | some cause => exact ⟨_, _, rfl, rfl⟩
  | none =>
    simp only [endPing, countResult]
    split <;> exact ⟨_, _, rfl, rfl⟩

theorem OnSchedule.endPing (hs : OnSchedule P plans switched n t answered h) {u : Nat} {failure : Option Store.Error}
    (hbusy : h.current = some (some u, failure)) (hle : u ≤ t) :
    OnSchedule P plans switched n t (answered + 1) (h.endPing u failure) := by
  obtain ⟨hstarted, hanswer, hfailure⟩ := (hbusy ▸ hs.stage).busy
  have hcounted := healthFailures_endPing (h := h) u failure
  obtain ⟨store, metrics, hend, hstore⟩ := endPing_eq (h := h) u failure
  rw [hend] at hcounted ⊢
  refine { hs with switched_eq := ?_, stage := ?_, ended := fun k hk => ?_, counted := ?_ }
  · rw [hstore, hs.switched_eq]
  · show Stage P plans h.started (answered + 1) none u
    rw [hstarted]
    exact .waiting hanswer
  · obtain hk | rfl := Nat.lt_or_eq_of_le (Nat.le_of_lt_succ hk)
    · exact hs.ended k hk
    · exact ⟨u, hanswer, hle⟩
  · show metrics.healthFailures = _
    rw [hcounted, hs.counted, hs.switched_eq, ← hfailure, List.range_succ, List.countP_append, List.countP_singleton]
    unfold fails
    cases (plans answered).failure.isSome || switched <;> rfl

theorem OnSchedule.not_finished (hs : OnSchedule P plans switched n t answered h) (hP : 0 < P) : h.finished = false := by
  simp [finished, hs.running, hs.period_eq, Nat.ne_of_gt hP]

/-- Each thing that happens by the time `t` keeps the check on its schedule, and there is
    less to happen after it. -/
theorem OnSchedule.next (hs : OnSchedule P plans switched n t answered h) (hP : 0 < P) (hn : t / P ≤ n) {u : Nat}
    {after : HealthCheck} (hnext : h.next? = some (u, after)) (hu : u ≤ t) :
    (∃ answered', OnSchedule P plans switched n t answered' after) ∧ remaining t after < remaining t h := by
  unfold next? at hnext
  rw [hs.not_finished hP] at hnext
  simp only [Bool.false_eq_true, if_false] at hnext
  split at hnext
  · rename_i hidle
    cases hnext
    -- the ping's tick has come by `t`, so it is one of the `t / P` there are
    have hle := le_pingStart (hs.nextStart_eq hidle).2
    have htick : h.started + 1 ≤ t / P := (Nat.le_div_iff_mul_le hP).mpr (Nat.le_trans hle hu)
    refine ⟨⟨answered, hs.startPing hidle (Nat.lt_of_lt_of_le htick hn) hu⟩, ?_⟩
    simp only [remaining, hidle, hs.period_eq, HealthCheck.startPing, Option.toList_some, Option.toList_none,
      List.length_singleton, List.length_nil]
    omega
  · rename_i failure hbusy
    cases hnext
    refine ⟨⟨answered + 1, hs.endPing hbusy hu⟩, ?_⟩
    obtain ⟨store, metrics, hend, -⟩ := endPing_eq (h := h) u failure
    simp only [remaining, hend, hbusy, Option.toList_some, Option.toList_none, List.length_singleton, List.length_nil]
    omega
  · cases hnext

/-- What a check waits for is the next thing to happen. -/
theorem settled_of_next (hrun : h.finished = false) (hnext : ∀ u after, h.next? = some (u, after) → t < u) :
    Settled t h := by
  unfold next? at hnext
  rw [hrun] at hnext
  unfold Settled
  split
  · rename_i hidle
    exact hnext _ _ (by rw [hidle]; rfl)
  · rename_i wake failure hbusy
    rintro u rfl
    exact hnext _ _ (by rw [hbusy]; rfl)

theorem OnSchedule.advance (hP : 0 < P) (hn : t / P ≤ n) (fuel : Nat) {h : HealthCheck} {answered : Nat}
    (hs : OnSchedule P plans switched n t answered h) (hfuel : remaining t h < fuel) :
    ∃ answered', OnSchedule P plans switched n t answered' (advanceWithin t fuel h) ∧
      Settled t (advanceWithin t fuel h) := by
  induction fuel generalizing h answered with
  | zero => exact absurd hfuel (Nat.not_lt_zero _)
  | succ fuel ih =>
    simp only [advanceWithin]
    split
    · rename_i u after hnext
      split
      · rename_i hu
        obtain ⟨⟨answered', hs'⟩, hless⟩ := hs.next hP hn hnext hu
        exact ih hs' (by omega)
      · rename_i hu
        refine ⟨answered, hs, settled_of_next (hs.not_finished hP) fun v x hv => ?_⟩
        rw [hnext] at hv
        cases hv
        omega
    · rename_i hnone
      refine ⟨answered, hs, settled_of_next (hs.not_finished hP) fun v x hv => ?_⟩
      rw [hnone] at hv
      cases hv

/-! ## Sleeps -/

/-- Lets times pass one after the other. -/
def sleeps (h : HealthCheck) (naps : List Nat) : HealthCheck := naps.foldl (fun h ms => h.sleep ms) h

/-- A check at the time `t`, with all that was to happen by then behind it. -/
structure At (P : Nat) (plans : Nat → Plan) (switched : Bool) (n t answered : Nat) (h : HealthCheck) : Prop where
  onSchedule : OnSchedule P plans switched n t answered h
  settled : Settled t h
  now_eq : h.now = t

theorem OnSchedule.later (hs : OnSchedule P plans switched n t answered h) {t' : Nat} (hle : t ≤ t') :
    OnSchedule P plans switched n t' answered h :=
  { hs with
    began := fun k hk => (hs.began k hk).imp fun _ hb => ⟨hb.1, Nat.le_trans hb.2 hle⟩
    ended := fun k hk => (hs.ended k hk).imp fun _ he => ⟨he.1, Nat.le_trans he.2 hle⟩ }

theorem At.sleep (ha : At P plans switched n t answered h) (hP : 0 < P) {ms : Nat} (hn : (t + ms) / P ≤ n) :
    ∃ answered', At P plans switched n (t + ms) answered' (h.sleep ms) := by
  have hs := ha.onSchedule.later (Nat.le_add_right t ms)
  have hfuel : remaining (t + ms) h < 2 * ((t + ms) / h.period + 1) := by
    have : h.current.toList.length ≤ 1 := by cases h.current <;> simp
    unfold remaining
    generalize (t + ms) / h.period = ticks
    omega
  obtain ⟨answered', hs', hsettled⟩ := hs.advance hP hn _ hfuel
  rw [HealthCheck.sleep, ha.now_eq]
  exact ⟨answered', { hs' with }, hsettled, rfl⟩

theorem At.sleeps (hP : 0 < P) {naps : List Nat} {h : HealthCheck} {t answered : Nat}
    (ha : At P plans switched n t answered h) (hn : (t + naps.foldr (· + ·) 0) / P ≤ n) :
    ∃ answered', At P plans switched n (t + naps.foldr (· + ·) 0) answered' (h.sleeps naps) := by
  induction naps generalizing h t answered with
  | nil => exact ⟨answered, ha⟩
  | cons ms naps ih =>
    simp only [List.foldr_cons, ← Nat.add_assoc] at hn ⊢
    have hle : (t + ms) / P ≤ (t + ms + naps.foldr (· + ·) 0) / P := Nat.div_le_div_right (Nat.le_add_right _ _)
    obtain ⟨answered', ha'⟩ := ha.sleep hP (Nat.le_trans hle hn)
    exact ih ha' hn

/-! ## What has happened by a time -/

/-- Just the pings have started that were to start by then. -/
theorem At.started_iff (ha : At P plans switched n t answered h) (k : Nat) :
    k < h.started ↔ ∃ s, pingStart P plans k = some s ∧ s ≤ t := by
  refine ⟨ha.onSchedule.began k, fun ⟨s, hk, hst⟩ => Nat.lt_of_not_le fun hge => ?_⟩
  obtain ⟨r, hr, hrs⟩ := pingStart_mono hge hk
  have hsettled := ha.settled
  unfold Settled at hsettled
  split at hsettled
  · rename_i hidle
    rw [(ha.onSchedule.nextStart_eq hidle).2] at hr
    cases hr
    omega
  · rename_i wake failure hbusy
    obtain ⟨hstarted, hanswer, -⟩ := (hbusy ▸ ha.onSchedule.stage).busy
    rw [hstarted, pingStart_succ] at hr
    obtain ⟨u, hu, rfl⟩ := Option.map_eq_some_iff.mp hr
    have := hsettled u (hanswer.symm.trans hu)
    omega

/-- Just the pings are answered that were to be answered by then. -/
theorem At.answered_iff (ha : At P plans switched n t answered h) (k : Nat) :
    k < answered ↔ ∃ u, pingEnd P plans k = some u ∧ u ≤ t := by
  refine ⟨ha.onSchedule.ended k, fun ⟨u, hk, hut⟩ => ?_⟩
  obtain ⟨s, hs, hsu⟩ := pingStart_le_pingEnd hk
  have hstarted := (ha.started_iff k).mpr ⟨s, hs, Nat.le_trans hsu hut⟩
  cases hc : h.current with
  | none => rw [(ha.onSchedule.nextStart_eq hc).1]; exact hstarted
  | some current =>
    obtain ⟨wake, failure⟩ := current
    obtain ⟨hnext, hanswer, -⟩ := (hc ▸ ha.onSchedule.stage).busy
    have hsettled := ha.settled
    simp only [Settled, hc] at hsettled
    refine Nat.lt_of_not_le fun hge => ?_
    obtain rfl : k = answered := by omega
    have := hsettled u (hanswer.symm.trans hk)
    omega

theorem At.started_le (ha : At P plans switched n t answered h) (hP : 0 < P) : h.started ≤ t / P := by
  cases hc : h.started with
  | zero => exact Nat.zero_le _
  | succ k =>
    obtain ⟨s, hs, hst⟩ := (ha.started_iff k).mp (by omega)
    exact (Nat.le_div_iff_mul_le hP).mpr (Nat.le_trans (le_pingStart hs) hst)

theorem At.started_prompt (ha : At P plans switched n t answered h) (hP : 0 < P)
    (hprompt : ∀ k < t / P, (plans k).delay = some 0) : h.started = t / P := by
  refine Nat.le_antisymm (ha.started_le hP) ?_
  cases hticks : t / P with
  | zero => exact Nat.zero_le _
  | succ k =>
    have hle : (k + 1) * P ≤ t := (Nat.le_div_iff_mul_le hP).mp (Nat.le_of_eq hticks.symm)
    exact (ha.started_iff k).mpr ⟨_, pingStart_prompt hprompt (by omega), hle⟩

/-- A stopped check does nothing but let time pass. -/
theorem sleeps_stopped {h : HealthCheck} (hstop : h.finished = true) (naps : List Nat) :
    ∃ now, h.sleeps naps = { h with now } := by
  induction naps generalizing h with
  | nil => exact ⟨h.now, rfl⟩
  | cons ms naps ih =>
    have hnone : h.next? = none := by rw [next?, hstop]; rfl
    have hstay : ∀ t fuel, advanceWithin t fuel h = h := by
      intro t fuel
      cases fuel with
      | zero => rfl
      | succ fuel => simp only [advanceWithin, hnone]
    obtain ⟨now, hnow⟩ := ih (h := { h with now := h.now + ms }) hstop
    refine ⟨now, ?_⟩
    show (h.sleep ms).sleeps naps = _
    rw [HealthCheck.sleep, hstay, hnow]

/-- A script for the first pings of any sequence. -/
def scriptOf (plans : Nat → Plan) (n : Nat) : Script where
  pingDelays := (List.range n).map fun k => (plans k).delay
  pingFailures := (List.range n).map fun k => (plans k).failure

theorem planOf_scriptOf (plans : Nat → Plan) {n k : Nat} (h : k < n) :
    (scriptOf plans n).planOf .ping k = plans k := by
  simp [scriptOf, Script.planOf, Script.plan, List.head?_drop, h]

/-! ## The whole run -/

/-- A check of a store every `P` milliseconds, with any sequence of plans for its pings,
    after any sleeps. It is said of every script that has the plans of all pings there can
    have been, and there are such scripts.
    The pings that have started are those that `pingStart` has start by then: no more than
    one for each tick, and one for each if every ping is answered at once. A ping that is
    answered when the next tick has come is followed by the next at once. The failures that
    are counted, and shown, are those of the pings that were answered by then. The check is
    not over before it is stopped, at whatever point, and then starts and counts nothing
    more. -/
theorem health_check_schedule {P : Nat} (hP : 0 < P) (plans : Nat → Plan) (store : Memory) (naps : List Nat) :
    let t := naps.foldr (· + ·) 0
    (∃ script : Script, ∀ k < t / P, script.planOf .ping k = plans k) ∧
    (∀ k u, pingEnd P plans k = some u → (k + 2) * P ≤ u → pingStart P plans (k + 1) = some u) ∧
    ∀ script : Script, (∀ k < t / P, script.planOf .ping k = plans k) →
      let h := sleeps { period := P, store, script } naps
      (∀ k, k < h.started ↔ ∃ s, pingStart P plans k = some s ∧ s ≤ t) ∧
      h.started ≤ t / P ∧ ((∀ k < t / P, (plans k).delay = some 0) → h.started = t / P) ∧
      (∃ answered, (∀ k, k < answered ↔ ∃ u, pingEnd P plans k = some u ∧ u ≤ t) ∧
        h.metrics.healthFailures = (List.range answered).countP (fails plans store.failures.ping) ∧
        Metrics.Says h.metrics.exposition Metrics.healthFailuresName h.metrics.healthFailures) ∧
      h.finished = false ∧
      ∀ later fuel rest, let cut := advanceWithin later fuel h
        let stopped := cut.abort.sleeps rest
        stopped.started = cut.started ∧ stopped.metrics = cut.metrics ∧ stopped.finished = true := by
  intro t
  refine ⟨⟨scriptOf plans (t / P), fun k hk => planOf_scriptOf plans hk⟩, fun k u hu hlate => ?_,
    fun script hscript => ?_⟩
  · rw [pingStart_succ, hu, Option.map_some, Nat.max_eq_right hlate]
  intro h
  have hopening : At P plans store.failures.ping (t / P) 0 0 { period := P, store, script } := by
    refine ⟨onSchedule_initial store hscript, ?_, rfl⟩
    show 0 < max (0 + P) 0
    omega
  obtain ⟨answered, ha⟩ := hopening.sleeps hP (Nat.le_of_eq (congrArg (· / P) (Nat.zero_add t)))
  rw [Nat.zero_add] at ha
  refine ⟨ha.started_iff, ha.started_le hP, ha.started_prompt hP,
    ⟨answered, ha.answered_iff, ha.onSchedule.counted, Metrics.says_healthFailures _⟩,
    ha.onSchedule.not_finished hP, fun later fuel rest => ?_⟩
  intro cut stopped
  obtain ⟨now, hnow⟩ := sleeps_stopped (h := cut.abort) (by simp [finished, abort]) rest
  rw [show stopped = _ from hnow]
  exact ⟨rfl, rfl, by simp [finished, abort]⟩

/-- The first ping takes more than two periods and fails. -/
def slowFirst : Script := { pingDelays := [some 25], pingFailures := [some (.unavailable "gone")] }

/-- The two pings that it held up follow it at once. -/
theorem slow_ping_is_followed :
    0 < 10 ∧ (sleeps { period := 10, script := slowFirst } [30, 6]).started = 3 ∧
      (sleeps { period := 10, script := slowFirst } [30, 6]).metrics.healthFailures = 1 := by
  obtain ⟨-, -, hrun⟩ := health_check_schedule (P := 10) (by decide) (slowFirst.planOf .ping) {} [30, 6]
  obtain ⟨hstarted, hle, -⟩ := hrun slowFirst fun _ _ => rfl
  have hthird := (hstarted 2).mpr ⟨35, rfl, by decide⟩
  exact ⟨by decide, Nat.le_antisymm hle hthird, by decide⟩

end NumberRegistry.HealthCheck
