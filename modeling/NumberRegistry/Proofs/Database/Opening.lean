/-
  NumberRegistry.Proofs.Database.Opening — when the time to open a database cannot be told.

  Opening a pool takes the moment by which it has to be done from the clock, and the clock
  ends. That goes wrong if the connection string is read and the time to wait leads past
  the last moment (`connect_too_late`); in every other case opening ends with an open
  database or with an error (`connect_ends_iff`). The checks of the settings keep the time
  from being zero and from nothing else, so that for every moment there are accepted
  settings with a time that is too long; half of all times are too long at any moment.
-/
import NumberRegistry.Database.Connect
import NumberRegistry.Proofs.Database.ConnectOptions
import NumberRegistry.Proofs.Settings.Validation

namespace NumberRegistry.Database

open Settings (PoolLimits)

variable {now : Instant} {dsn : String} {limits : PoolLimits} {server : Server}

/-- Whether the connection string says how to connect. -/
def Connectable (dsn : String) : Prop := ∃ options, (ConnectOptions.parse dsn).1 = .ok options

/-- The database is open, or there is an error to tell. -/
inductive Opening.Ends : Opening → Prop
  | opened (d : Database) : Ends (.opened d)
  | failed (reason : StartupError) (server : Server) : Ends (.failed reason server)

theorem establish_ends (d : Database) (limits : PoolLimits) : (establish d limits).Ends := by
  unfold establish
  split
  · exact .failed _ _
  · split
    · exact .failed _ _
    · split
      · exact .opened _
      · exact .failed _ _
      · exact .failed _ _

theorem connect_unreadable (h : ¬ Connectable dsn) : (connect now dsn limits server).1.Ends := by
  unfold connect
  dsimp only
  split
  · exact .failed _ _
  · rename_i options hoptions
    exact absurd ⟨options, hoptions⟩ h

theorem connect_in_time (h : now.seconds + limits.acquireTimeout.toNat < Instant.count) :
    (connect now dsn limits server).1.Ends := by
  unfold connect
  dsimp only
  split
  · exact .failed _ _
  · split
    · rename_i hnone
      have := Instant.after?_eq_none_iff.mp hnone
      omega
    · exact establish_ends _ _

theorem connect_too_late (h : Connectable dsn) (hlate : Instant.count ≤ now.seconds + limits.acquireTimeout.toNat) :
    (connect now dsn limits server).1 = .clockOverflow server := by
  obtain ⟨options, hoptions⟩ := h
  have hnone := Instant.after?_eq_none_iff.mpr hlate
  unfold connect
  dsimp only
  rw [hoptions]
  simp only [hnone]

theorem Opening.Ends.ne_overflow {o : Opening} (h : o.Ends) (server : Server) : o ≠ .clockOverflow server := by
  rintro rfl
  cases h

theorem connect_ends_iff : (connect now dsn limits server).1.Ends ↔
    ¬ (Connectable dsn ∧ Instant.count ≤ now.seconds + limits.acquireTimeout.toNat) := by
  constructor
  · rintro h ⟨hdsn, hlate⟩
    exact h.ne_overflow server (connect_too_late hdsn hlate)
  · intro h
    by_cases hdsn : Connectable dsn
    · refine connect_in_time ?_
      by_contra hlate
      exact h ⟨hdsn, by omega⟩
    · exact connect_unreadable hdsn

theorem overflow_of_not_ends (h : ¬ (connect now dsn limits server).1.Ends) :
    (connect now dsn limits server).1 = .clockOverflow server := by
  rw [connect_ends_iff, not_not] at h
  exact connect_too_late h.1 h.2

/-- How long accepted settings may wait for a connection.

    The clock can tell when each of the times of accepted settings is over exactly if it is
    over before the clock ends. With the limits of these settings, or those for migrating,
    opening a database ends with an open database or with an error unless the connection
    string can be read and the time to wait for a connection is not over before the clock
    ends; then the clock overflows, and the server has not been asked for anything. A time
    of half the range or more overflows at every moment, and is accepted as any other. -/
theorem long_wait_overflows (s : Settings) (h : s.validate = .ok ()) :
    (∀ (now : Instant), ∀ t ∈ s.timeouts, now.after? t.2 = none ↔ Instant.count ≤ now.seconds + t.2.toNat) ∧
    (∀ (now : Instant) (dsn : String) (server : Server), ∀ limits ∈ [s.poolLimits, s.poolLimits.single],
      ((connect now dsn limits server).1.Ends ↔
        ¬ (Connectable dsn ∧ Instant.count ≤ now.seconds + s.poolAcquireTimeoutSecs.toNat)) ∧
      (¬ (connect now dsn limits server).1.Ends → (connect now dsn limits server).1 = .clockOverflow server)) ∧
    ∀ secs : UInt64, Instant.count ≤ secs.toNat →
      { s with poolAcquireTimeoutSecs := secs }.validate = .ok () ∧ ∀ now : Instant, now.after? secs = none := by
  refine ⟨fun _ _ _ => Instant.after?_eq_none_iff, fun now dsn server limits hlimits => ?_, fun secs hsecs => ?_⟩
  · have hacquire : limits.acquireTimeout = s.poolAcquireTimeoutSecs := by
      simp only [List.mem_cons, List.not_mem_nil, or_false] at hlimits
      rcases hlimits with rfl | rfl
      · rfl
      · rfl
    rw [← hacquire]
    exact ⟨connect_ends_iff, overflow_of_not_ends⟩
  · have hsound := Settings.validate_ok_iff.mp h
    have hpos : 0 < secs := UInt64.lt_iff_toNat_lt.mpr (Nat.lt_of_lt_of_le (by decide) hsecs)
    have hlong : { s with poolAcquireTimeoutSecs := secs }.Sound := { hsound with acquireTimeout := hpos }
    refine ⟨Settings.validate_ok_iff.mpr hlong, fun now => ?_⟩
    exact Instant.after?_eq_none_iff.mpr (Nat.le_add_left_of_le hsecs)

/-- A database on this machine. -/
def nearDsn : String := "postgres://app@localhost/numbers"

theorem connectable_near : Connectable nearDsn :=
  ⟨{ user := some "app", database := some "numbers" }, ConnectOptions.parse_of_toOption (by decide +kernel)⟩

/-- Settings that wait for a connection until the clock ends, if they start with it. -/
def patient : Settings where
  postgresDsn := some nearDsn
  poolAcquireTimeoutSecs := 0x7FFFFFFFFFFFFFFF

theorem patient_from_the_start : patient.validate = .ok () ∧ (connect .first nearDsn patient.poolLimits {}).1.Ends ∧
    (connect ⟨1, by decide⟩ nearDsn patient.poolLimits {}).1 = .clockOverflow {} := by
  have hvalid : patient.validate = .ok () := rfl
  have hwait := (long_wait_overflows patient hvalid).2.1
  refine ⟨hvalid, ?_, ?_⟩
  · refine (hwait .first nearDsn {} _ List.mem_cons_self).1.mpr ?_
    rintro ⟨-, hlate⟩
    exact absurd hlate (by decide)
  · refine (hwait ⟨1, by decide⟩ nearDsn {} _ List.mem_cons_self).2 fun hends => ?_
    exact (hwait ⟨1, by decide⟩ nearDsn {} _ List.mem_cons_self).1.mp hends ⟨connectable_near, by decide⟩

/-- Accepted settings with which the clock overflows at its first moment already. -/
theorem endless_wait_overflows :
    { patient with poolAcquireTimeoutSecs := 0xFFFFFFFFFFFFFFFF }.validate = .ok () ∧
      (connect .first nearDsn { patient with poolAcquireTimeoutSecs := 0xFFFFFFFFFFFFFFFF }.poolLimits {}).1 =
        .clockOverflow {} :=
  ⟨rfl, connect_too_late connectable_near (by decide)⟩

end NumberRegistry.Database
