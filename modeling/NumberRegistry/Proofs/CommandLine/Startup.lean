/-
  NumberRegistry.Proofs.CommandLine.Startup — what starting the service can rely on.

  Settings that were loaded for a command are sound (`loadSettings_sound`), with an address
  given on the command line as well as without. So what a command takes from them after
  that is there: the connection string and the address to bind (`Sound.startup`), and the
  command goes on to open the database with limits that fit together (`serve_eq`,
  `migrate_eq`). What a command does with the open database it does with these very
  settings, its health check included (`withDatabase_serving`).
-/
import NumberRegistry.CommandLine.Run
import NumberRegistry.Proofs.Settings.Validation

namespace NumberRegistry.CommandLine

open Settings (Sound)

namespace Run

variable {w : Surroundings} {addr : Option String} {events : List Log.Event} {s : Settings} {dsn : String}
  {place : Net.SocketAddress}

theorem loadSettings_sound (h : loadSettings w addr = (events, .ok s)) : s.Sound := by
  unfold loadSettings at h
  dsimp only at h
  split at h
  · cases h
  · split at h
    · cases h
    · rename_i hvalid
      cases h
      exact Settings.validate_ok_iff.mp hvalid

/-- What is taken from sound settings is there. -/
theorem Sound.startup (h : s.Sound) : ∃ dsn place, s.dsn = .ok dsn ∧ s.bindAddress = .ok place ∧
    s.redactedDsn = some (Settings.redact dsn) := by
  obtain ⟨dsn, hdsn⟩ := Settings.dsn_ok h.dsn
  obtain ⟨place, hplace⟩ := h.address
  refine ⟨dsn, place, hdsn, hplace, ?_⟩
  unfold Settings.redactedDsn
  rw [hdsn]
  rfl

theorem serve_eq (h : loadSettings w addr = (events, .ok s)) (hdsn : s.dsn = .ok dsn) (hplace : s.bindAddress = .ok place)
    (migrateFirst : Bool) :
    serve w addr migrateFirst = withDatabase w events dsn s.poolLimits (prepareServing s place migrateFirst) := by
  unfold serve
  rw [h]
  simp only [bind, Except.bind, pure, Except.pure, hdsn, hplace]

theorem migrate_eq (h : loadSettings w none = (events, .ok s)) (hdsn : s.dsn = .ok dsn) :
    migrate w = withDatabase w events dsn s.poolLimits.single migrateAndClose := by
  unfold migrate
  rw [h]
  simp only [Except.bind, Except.map, hdsn]

theorem prepareServing_serving {migrateFirst : Bool} {d : Database} {place' : Net.SocketAddress} {s' : Settings}
    (h : (prepareServing s place migrateFirst events d).ending = .serving place' s') : place' = place ∧ s' = s := by
  unfold prepareServing at h
  dsimp only at h
  by_cases hmigrate : migrateFirst
  · rw [if_pos hmigrate] at h
    split at h
    · cases h
      exact ⟨rfl, rfl⟩
    · cases h
  · rw [if_neg hmigrate] at h
    cases h
    exact ⟨rfl, rfl⟩

theorem withDatabase_serving {limits : Settings.PoolLimits} {go : List Log.Event → Database → Outcome}
    {place' : Net.SocketAddress} {s' : Settings} (h : (withDatabase w events dsn limits go).ending = .serving place' s') :
    ∃ events' d, (go events' d).ending = .serving place' s' := by
  unfold withDatabase at h
  dsimp only at h
  split at h
  · exact ⟨_, _, h⟩
  · cases h
  · cases h

/-- The check of the store has a period. -/
theorem healthCheck_runs (h : s.Sound) : 0 < (healthCheck s).period ∧ (healthCheck s).finished = false := by
  have hsecs : 0 < s.poolHealthCheckSecs.toNat := UInt64.lt_iff_toNat_lt.mp h.healthCheck
  have hperiod : 0 < (healthCheck s).period := by
    show 0 < 1000 * s.poolHealthCheckSecs.toNat
    omega
  refine ⟨hperiod, ?_⟩
  have hne : (healthCheck s).period ≠ 0 := by omega
  unfold HealthCheck.finished
  simp only [hne, decide_false, Bool.or_false]
  rfl

/-- The limits of pools fit together. -/
theorem limits_fit (h : s.Sound) {limits : Settings.PoolLimits} (hlimits : limits ∈ [s.poolLimits, s.poolLimits.single]) :
    limits.minConnections ≤ limits.maxConnections ∧ 1 ≤ limits.maxConnections := by
  simp only [List.mem_cons, List.not_mem_nil, or_false] at hlimits
  rcases hlimits with rfl | rfl
  · exact ⟨h.limits, h.someConnection⟩
  · show (0 : UInt32) ≤ 1 ∧ (1 : UInt32) ≤ 1
    decide

end Run

open Run in
/-- Which settings are accepted, and what accepted settings can be relied on for.

    Settings are accepted exactly if they are sound, and else refused with what the first
    check reports that they do not meet. If a command has loaded its settings, then there
    are a connection string, an address to bind and a text of the connection string to
    show, and the command goes on to open a pool with limits that fit together. A server
    that it starts is bound to that address, with a check of the store that has a period. -/
theorem accepted_settings_start :
    (∀ s : Settings, (s.validate = .ok () ↔ s.Sound) ∧
      ∀ e, s.validate = .error e ↔
        ∃ before c after, s.checks = before ++ c :: after ∧ (∀ b ∈ before, b.met) ∧ ¬ c.met ∧ e = c.fault) ∧
    ∀ (w : Surroundings) (addr : Option String) (events : List Log.Event) (s : Settings),
      loadSettings w addr = (events, .ok s) →
      ∃ dsn place, s.dsn = .ok dsn ∧ s.bindAddress = .ok place ∧ s.redactedDsn = some (Settings.redact dsn) ∧
        (∀ migrateFirst, serve w addr migrateFirst =
          withDatabase w events dsn s.poolLimits (prepareServing s place migrateFirst)) ∧
        (addr = none → migrate w = withDatabase w events dsn s.poolLimits.single migrateAndClose) ∧
        (∀ limits ∈ [s.poolLimits, s.poolLimits.single],
          limits.minConnections ≤ limits.maxConnections ∧ 1 ≤ limits.maxConnections) ∧
        ∀ migrateFirst place' s', (serve w addr migrateFirst).ending = .serving place' s' →
          place' = place ∧ s' = s ∧ 0 < (healthCheck s').period ∧ (healthCheck s').finished = false := by
  refine ⟨fun s => ⟨Settings.validate_ok_iff, fun e => Settings.validate_error_iff⟩, fun w addr events s h => ?_⟩
  have hsound := loadSettings_sound h
  obtain ⟨dsn, place, hdsn, hplace, hshown⟩ := Sound.startup hsound
  refine ⟨dsn, place, hdsn, hplace, hshown, serve_eq h hdsn hplace, ?_, fun _ => limits_fit hsound, ?_⟩
  · rintro rfl
    exact migrate_eq h hdsn
  · intro migrateFirst place' s' hserving
    rw [serve_eq h hdsn hplace migrateFirst] at hserving
    obtain ⟨events', d, hgo⟩ := withDatabase_serving hserving
    obtain ⟨rfl, rfl⟩ := prepareServing_serving hgo
    exact ⟨rfl, rfl, healthCheck_runs hsound⟩

/-- Surroundings whose address is none, with a connection string. -/
def misaddressed : Surroundings where
  environment := [("POSTGRES_DSN", " postgres://app@localhost/numbers"), ("SERVER_ADDR", "nowhere")]
  envFile := none
  now := .first
  server := {}

/-- The settings of these surroundings, with an address that is given to the command. -/
def readdressed : Settings where
  postgresDsn := some " postgres://app@localhost/numbers"
  serverAddr := ":80"

theorem readdressed_starts : ∃ events, Run.loadSettings misaddressed (some ":80") = (events, .ok readdressed) ∧
    readdressed.Sound ∧ ∀ migrateFirst, Run.serve misaddressed (some ":80") migrateFirst =
      Run.withDatabase misaddressed events "postgres://app@localhost/numbers" readdressed.poolLimits
        (Run.prepareServing readdressed (.v4 .unspecified 80) migrateFirst) := by
  have hloaded : Run.loadSettings misaddressed (some ":80") =
      ([Run.info "Loading configuration..."], .ok readdressed) := rfl
  have hvalid : readdressed.validate = .ok () := rfl
  have hdsn : readdressed.dsn = .ok "postgres://app@localhost/numbers" := rfl
  have hplace : readdressed.bindAddress = .ok (.v4 .unspecified 80) := rfl
  obtain ⟨dsn, place, hdsn', hplace', -, hserve, -⟩ := accepted_settings_start.2 misaddressed (some ":80") _ _ hloaded
  rw [hdsn] at hdsn'
  rw [hplace] at hplace'
  cases hdsn'
  cases hplace'
  exact ⟨_, hloaded, (accepted_settings_start.1 readdressed).1.mp hvalid, hserve⟩

end NumberRegistry.CommandLine
