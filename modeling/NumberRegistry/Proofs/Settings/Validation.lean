/-
  NumberRegistry.Proofs.Settings.Validation — which settings the service starts with.

  The requirements on settings are a list of checks in their order, each with what is
  reported where it is not met (`checks`). Validation goes along that list and reports the
  first check that is not met (`verdict_validate`), so settings are accepted exactly if they
  are `Sound` (`validate_ok_iff`), and any other settings are refused with the error of
  their first failing check (`validate_error_iff`).
-/
import Mathlib.Data.List.DropRight
import NumberRegistry.Settings.Validate

namespace NumberRegistry

open Text

theorem Text.trim_eq_nil_iff {cs : List Char} : trim cs = [] ↔ ∀ c ∈ cs, isBlank c = true := by
  have hend : trim cs = [] ↔ ∀ c ∈ cs.dropWhile isBlank, isBlank c = true := List.rdropWhile_eq_nil_iff
  rw [hend, ← List.dropWhile_eq_nil_iff, List.dropWhile_idempotent, List.dropWhile_eq_nil_iff]

namespace Settings

/-! ## The connection string -/

/-- There is a connection string, and it is not blank. -/
def HasDsn (s : Settings) : Prop := ∃ d, s.postgresDsn = some d ∧ ∃ c ∈ d.toList, isBlank c = false

theorem dsn_ok {s : Settings} (h : s.HasDsn) : ∃ d, s.dsn = .ok d := by
  obtain ⟨d, hd, c, hc, hvisible⟩ := h
  unfold dsn
  rw [hd, Option.map_some]
  cases htrim : trim d.toList with
  | nil =>
    have hblank := Text.trim_eq_nil_iff.mp htrim c hc
    rw [hvisible] at hblank
    cases hblank
  | cons c cs => exact ⟨_, rfl⟩

theorem dsn_missing {s : Settings} (h : ¬ s.HasDsn) : s.dsn = .error .missingDsn := by
  unfold dsn
  cases hd : s.postgresDsn with
  | none => rfl
  | some d =>
    have hblank : trim d.toList = [] := Text.trim_eq_nil_iff.mpr fun c hc => by
      by_contra hvisible
      exact h ⟨d, hd, c, hc, by simpa using hvisible⟩
    rw [Option.map_some, hblank]

theorem bindAddress_error {s : Settings} (h : ¬ ∃ a, s.bindAddress = .ok a) :
    s.bindAddress = .error (.invalidAddress s.serverAddr "invalid socket address syntax") := by
  unfold bindAddress at h ⊢
  split
  · rename_i a ha
    rw [ha] at h
    exact absurd ⟨a, rfl⟩ h
  · rfl

/-! ## The checks -/

/-- A requirement, and what is reported where it is not met. -/
structure Check where
  met : Prop
  fault : Error

/-- All requirements in the order in which they are checked. -/
def checks (s : Settings) : List Check :=
  [⟨s.HasDsn, .missingDsn⟩,
    ⟨∃ a, s.bindAddress = .ok a, .invalidAddress s.serverAddr "invalid socket address syntax"⟩,
    ⟨1 ≤ s.poolMaxConnections, .invalidPool "POOL_MAX_CONNECTIONS must be at least 1"⟩,
    ⟨s.poolMinConnections ≤ s.poolMaxConnections,
      .invalidPool ("POOL_MIN_CONNECTIONS (" ++ Decimal.ofNat s.poolMinConnections.toNat ++
        ") exceeds POOL_MAX_CONNECTIONS (" ++ Decimal.ofNat s.poolMaxConnections.toNat ++ ")")⟩,
    ⟨0 < s.poolMaxLifetimeSecs, .zeroTimeout "POOL_MAX_LIFETIME_SECS"⟩,
    ⟨0 < s.poolMaxIdleSecs, .zeroTimeout "POOL_MAX_IDLE_SECS"⟩,
    ⟨0 < s.poolHealthCheckSecs, .zeroTimeout "POOL_HEALTH_CHECK_SECS"⟩,
    ⟨0 < s.poolAcquireTimeoutSecs, .zeroTimeout "POOL_ACQUIRE_TIMEOUT_SECS"⟩,
    ⟨0 < s.requestTimeoutSecs, .zeroTimeout "REQUEST_TIMEOUT_SECS"⟩,
    ⟨0 < s.shutdownTimeoutSecs, .zeroTimeout "SHUTDOWN_TIMEOUT_SECS"⟩]

/-- The result of going along checks up to the first that is not met. -/
inductive Verdict : List Check → Except Error Unit → Prop
  | passed : Verdict [] (.ok ())
  | met {c : Check} {cs : List Check} {r : Except Error Unit} (h : c.met) (hr : Verdict cs r) : Verdict (c :: cs) r
  | failed {c : Check} {cs : List Check} (h : ¬ c.met) : Verdict (c :: cs) (.error c.fault)

theorem verdict_ok_iff {cs : List Check} : Verdict cs (.ok ()) ↔ ∀ c ∈ cs, c.met := by
  induction cs with
  | nil => exact ⟨fun _ => by simp, fun _ => .passed⟩
  | cons c cs ih =>
    rw [List.forall_mem_cons, ← ih]
    constructor
    · intro h
      cases h with
      | met h hr => exact ⟨h, hr⟩
    · rintro ⟨h, hr⟩
      exact .met h hr

theorem verdict_error_iff {cs : List Check} {e : Error} : Verdict cs (.error e) ↔
    ∃ before c after, cs = before ++ c :: after ∧ (∀ b ∈ before, b.met) ∧ ¬ c.met ∧ e = c.fault := by
  constructor
  · intro h
    generalize hr : Except.error e = r at h
    induction h with
    | passed => cases hr
    | @met c cs r h _ ih =>
      obtain ⟨before, d, after, rfl, hbefore, hd⟩ := ih hr
      exact ⟨c :: before, d, after, rfl, List.forall_mem_cons.mpr ⟨h, hbefore⟩, hd⟩
    | @failed c cs h =>
      cases hr
      exact ⟨[], c, cs, rfl, by simp, h, rfl⟩
  · rintro ⟨before, c, after, rfl, hbefore, hc, rfl⟩
    induction before with
    | nil => exact .failed hc
    | cons b before ih =>
      obtain ⟨hb, hrest⟩ := List.forall_mem_cons.mp hbefore
      exact .met hb (ih hrest)

/-- There is only one result. -/
theorem Verdict.unique {cs : List Check} {r r' : Except Error Unit} (h : Verdict cs r) (h' : Verdict cs r') : r = r' := by
  induction h with
  | passed => cases h'; rfl
  | met h _ ih =>
    cases h' with
    | met _ hr => exact ih hr
    | failed hnot => exact absurd h hnot
  | failed hnot =>
    cases h' with
    | met h => exact absurd h hnot
    | failed => rfl

/-- Times are checked in their order. -/
theorem verdict_times (ts : List (String × UInt64)) :
    Verdict (ts.map fun t => ⟨0 < t.2, .zeroTimeout t.1⟩) (match ts.find? (·.2 = 0) with
      | some (name, _) => .error (.zeroTimeout name)
      | none => .ok ()) := by
  induction ts with
  | nil => exact .passed
  | cons t ts ih =>
    by_cases ht : t.2 = 0
    · simp only [List.find?_cons, ht, decide_true]
      exact .failed fun h => absurd (UInt64.pos_iff_ne_zero.mp h) (not_not.mpr ht)
    · simp only [List.find?_cons, ht, decide_false]
      exact .met (UInt64.pos_iff_ne_zero.mpr ht) ih

theorem validate_of_ok {s : Settings} {d : String} {a : Net.SocketAddress} (hd : s.dsn = .ok d)
    (ha : s.bindAddress = .ok a) :
    s.validate =
      if s.poolMaxConnections = 0 then .error (.invalidPool "POOL_MAX_CONNECTIONS must be at least 1")
      else if s.poolMaxConnections < s.poolMinConnections then
        .error (.invalidPool ("POOL_MIN_CONNECTIONS (" ++ Decimal.ofNat s.poolMinConnections.toNat ++
          ") exceeds POOL_MAX_CONNECTIONS (" ++ Decimal.ofNat s.poolMaxConnections.toNat ++ ")"))
      else match s.timeouts.find? (·.2 = 0) with
        | some (name, _) => .error (.zeroTimeout name)
        | none => .ok () := by
  unfold validate
  rw [hd, ha]
  by_cases hmax : s.poolMaxConnections = 0
  · simp only [hmax, if_true]
    rfl
  · by_cases hmin : s.poolMaxConnections < s.poolMinConnections
    · simp only [hmax, hmin, if_true, if_false]
      rfl
    · simp only [hmax, hmin, if_false]
      rfl

/-- Validation is going along the checks. -/
theorem verdict_validate (s : Settings) : Verdict s.checks s.validate := by
  by_cases hdsn : s.HasDsn
  · obtain ⟨d, hd⟩ := dsn_ok hdsn
    by_cases haddr : ∃ a, s.bindAddress = .ok a
    · obtain ⟨a, ha⟩ := id haddr
      rw [validate_of_ok hd ha]
      refine .met hdsn (.met haddr ?_)
      by_cases hmax : s.poolMaxConnections = 0
      · rw [if_pos hmax]
        exact .failed fun h => absurd (UInt32.pos_iff_ne_zero.mp h) (not_not.mpr hmax)
      · rw [if_neg hmax]
        refine .met (UInt32.pos_iff_ne_zero.mpr hmax) ?_
        by_cases hmin : s.poolMaxConnections < s.poolMinConnections
        · rw [if_pos hmin]
          exact .failed (UInt32.not_le.mpr hmin)
        · rw [if_neg hmin]
          exact .met (UInt32.not_lt.mp hmin) (verdict_times s.timeouts)
    · have herror : s.validate = .error (.invalidAddress s.serverAddr "invalid socket address syntax") := by
        unfold validate
        rw [hd, bindAddress_error haddr]
        rfl
      rw [herror]
      exact .met hdsn (.failed haddr)
  · have herror : s.validate = .error .missingDsn := by
      unfold validate
      rw [dsn_missing hdsn]
      rfl
    rw [herror]
    exact .failed hdsn

/-! ## Sound settings -/

/-- What settings have to be for the service to start with them. -/
structure Sound (s : Settings) : Prop where
  dsn : ∃ d, s.postgresDsn = some d ∧ ∃ c ∈ d.toList, isBlank c = false
  address : ∃ a, s.bindAddress = .ok a
  someConnection : 1 ≤ s.poolMaxConnections
  limits : s.poolMinConnections ≤ s.poolMaxConnections
  maxLifetime : 0 < s.poolMaxLifetimeSecs
  maxIdle : 0 < s.poolMaxIdleSecs
  healthCheck : 0 < s.poolHealthCheckSecs
  acquireTimeout : 0 < s.poolAcquireTimeoutSecs
  requestTimeout : 0 < s.requestTimeoutSecs
  shutdownTimeout : 0 < s.shutdownTimeoutSecs

theorem sound_iff_checks {s : Settings} : s.Sound ↔ ∀ c ∈ s.checks, c.met := by
  simp only [checks, List.forall_mem_cons, List.not_mem_nil, false_imp_iff, implies_true, and_true]
  constructor
  · rintro ⟨h1, h2, h3, h4, h5, h6, h7, h8, h9, h10⟩
    exact ⟨h1, h2, h3, h4, h5, h6, h7, h8, h9, h10⟩
  · rintro ⟨h1, h2, h3, h4, h5, h6, h7, h8, h9, h10⟩
    exact ⟨h1, h2, h3, h4, h5, h6, h7, h8, h9, h10⟩

theorem validate_ok_iff {s : Settings} : s.validate = .ok () ↔ s.Sound := by
  rw [sound_iff_checks, ← verdict_ok_iff]
  constructor
  · intro h
    rw [← h]
    exact verdict_validate s
  · exact (verdict_validate s).unique

theorem validate_error_iff {s : Settings} {e : Error} : s.validate = .error e ↔
    ∃ before c after, s.checks = before ++ c :: after ∧ (∀ b ∈ before, b.met) ∧ ¬ c.met ∧ e = c.fault := by
  rw [← verdict_error_iff]
  constructor
  · intro h
    rw [← h]
    exact verdict_validate s
  · exact (verdict_validate s).unique

end Settings

end NumberRegistry
