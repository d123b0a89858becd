/-
  NumberRegistry.Proofs.CommandLine.AddressOption — an address given on the command line.

  The option replaces the address after settings were loaded; the variable gives it while
  they are loaded. The two come to the same, for three reasons. No text is refused as an
  address while settings are loaded. No other variable is read with an eye to the address
  (`set_withAddress`). And a second variable for the address is refused whatever either
  says. So another text for the address changes nothing of what is loaded but the address,
  and no report of another fault (`loadFrom_readdressPair`, `loadFrom_snoc`, by induction on
  the variables). From there on a command has the same settings to work with
  (`addr_option_is_variable`).
-/
import NumberRegistry.CommandLine.Run
import NumberRegistry.Proofs.Settings.Load

namespace NumberRegistry.Settings

/-! ## Another address -/

variable {addr : String} {seen : List Field} {s : Settings} {pairs : List (String × String)} {f : Field}

def withAddress (addr : String) (s : Settings) : Settings := { s with serverAddr := addr }

/-- The same variable, with another text if it is for the address. -/
def readdressPair (addr : String) (x : String × String) : String × String :=
  if Field.serverAddr.NamedBy x.1 then (x.1, addr) else x

/-- The variables with another address: in the place of the old one, or at the end if there
    is none. -/
def readdress (addr : String) (pairs : List (String × String)) : List (String × String) :=
  if ∃ x ∈ pairs, Field.serverAddr.NamedBy x.1 then pairs.map (readdressPair addr)
  else pairs ++ [("SERVER_ADDR", addr)]

theorem key_readdressPair (x : String × String) : (readdressPair addr x).1 = x.1 := by
  unfold readdressPair
  split <;> rfl

theorem readdressPair_other {x : String × String} (hx : ¬ Field.serverAddr.NamedBy x.1) : readdressPair addr x = x :=
  if_neg hx

/-- No other field is set with an eye to the address. -/
theorem set_withAddress (hf : f ≠ .serverAddr) (key value : String) :
    (s.withAddress addr).set key value f = (s.set key value f).map (withAddress addr) := by
  have hnumber {α : Type} (r : Except EnvironmentError α) {put put' : α → Settings}
      (h : ∀ n, put' n = (put n).withAddress addr) : r.map put' = (r.map put).map (withAddress addr) := by
    cases r with
    | error e => rfl
    | ok n => exact congrArg Except.ok (h n)
  cases f with
  | serverAddr => exact absurd rfl hf
  | postgresDsn | logLevel => rfl
  | poolMaxConnections | poolMinConnections | poolMaxLifetimeSecs | poolMaxIdleSecs | poolHealthCheckSecs
  | poolAcquireTimeoutSecs | requestTimeoutSecs | shutdownTimeoutSecs => exact hnumber _ fun _ => rfl

/-- Variables with another text for the address. The address held before is overwritten,
    unless it was set by an earlier variable: then it is the new one already. -/
theorem loadFrom_readdressPair (old : String)
    (h : (Field.serverAddr ∈ seen ∧ old = addr) ∨ ∃ x ∈ pairs, Field.serverAddr.NamedBy x.1) :
    loadFrom seen (s.withAddress old) (pairs.map (readdressPair addr)) =
      (loadFrom seen s pairs).map (withAddress addr) := by
  induction pairs generalizing seen s old with
  | nil =>
    rcases h with ⟨-, rfl⟩ | ⟨x, hx, -⟩
    · rfl
    · cases hx
  | cons x rest ih =>
    have hlater (hx : ¬ Field.serverAddr.NamedBy x.1) :
        (Field.serverAddr ∈ seen ∧ old = addr) ∨ ∃ y ∈ rest, Field.serverAddr.NamedBy y.1 := by
      refine h.imp_right ?_
      rintro ⟨y, hy, hname⟩
      rcases List.mem_cons.mp hy with rfl | hy
      · exact absurd hname hx
      · exact ⟨y, hy, hname⟩
    rw [List.map_cons, loadFrom_cons, loadFrom_cons, key_readdressPair]
    cases hkey : Field.ofVariable? x.1 with
    | none => exact ih old (hlater (Field.ofVariable?_none_iff.mp hkey .serverAddr))
    | some f =>
      have hname := Field.ofVariable?_some_iff.mp hkey
      by_cases hseen : f ∈ seen
      · simp only [hseen, if_true]
        rfl
      · simp only [hseen, if_false]
        by_cases hf : f = .serverAddr
        · subst hf
          have hpair : readdressPair addr x = (x.1, addr) := if_pos hname
          rw [hpair]
          exact ih (s := s.withAddress x.2) addr (Or.inl ⟨List.mem_cons_self, rfl⟩)
        · have hother : ¬ Field.serverAddr.NamedBy x.1 := fun h => hf (hname.unique h)
          rw [readdressPair_other hother, set_withAddress hf]
          cases s.set x.1 x.2 f with
          | error e => rfl
          | ok s' => exact ih old ((hlater hother).imp_left fun h => ⟨List.mem_cons_of_mem _ h.1, h.2⟩)

/-- A variable for the address behind others that are not. -/
theorem loadFrom_snoc (hseen : Field.serverAddr ∉ seen) (h : ∀ x ∈ pairs, ¬ Field.serverAddr.NamedBy x.1) :
    loadFrom seen s (pairs ++ [("SERVER_ADDR", addr)]) = (loadFrom seen s pairs).map (withAddress addr) := by
  induction pairs generalizing seen s with
  | nil =>
    have hkey : Field.ofVariable? "SERVER_ADDR" = some .serverAddr := Field.ofVariable?_some_iff.mpr (by decide)
    rw [List.nil_append, loadFrom_cons, hkey]
    simp only [hseen, if_false]
    rfl
  | cons x rest ih =>
    obtain ⟨hx, hrest⟩ := List.forall_mem_cons.mp h
    rw [List.cons_append, loadFrom_cons, loadFrom_cons]
    cases hkey : Field.ofVariable? x.1 with
    | none => exact ih hseen hrest
    | some f =>
      have hf : Field.serverAddr ≠ f := by
        rintro rfl
        exact hx (Field.ofVariable?_some_iff.mp hkey)
      by_cases hf' : f ∈ seen
      · simp only [hf', if_true]
        rfl
      · simp only [hf', if_false]
        cases s.set x.1 x.2 f with
        | error e => rfl
        | ok s' => exact ih (List.not_mem_cons_of_ne_of_not_mem hf hseen) hrest

theorem ofPairs_readdress (addr : String) (pairs : List (String × String)) :
    ofPairs (readdress addr pairs) = (ofPairs pairs).map (withAddress addr) := by
  have hload : loadFrom [] {} (readdress addr pairs) = (loadFrom [] {} pairs).map (withAddress addr) := by
    unfold readdress
    by_cases h : ∃ x ∈ pairs, Field.serverAddr.NamedBy x.1
    · rw [if_pos h]
      exact loadFrom_readdressPair (s := {}) ({} : Settings).serverAddr (Or.inr h)
    · rw [if_neg h]
      exact loadFrom_snoc List.not_mem_nil fun x hx hname => h ⟨x, hx, hname⟩
  unfold ofPairs
  rw [hload]
  cases loadFrom [] {} pairs <;> rfl

/-! ## Which variable is changed -/

variable {before after : List (String × String)}

theorem readdress_one {key old : String} (hkey : Field.serverAddr.NamedBy key)
    (hother : ∀ x ∈ before ++ after, ¬ Field.serverAddr.NamedBy x.1) :
    readdress addr (before ++ (key, old) :: after) = before ++ (key, addr) :: after := by
  have hsame : (before ++ after).map (readdressPair addr) = before ++ after :=
    (List.map_congr_left fun x hx => readdressPair_other (hother x hx)).trans (List.map_id _)
  obtain ⟨hbefore, hafter⟩ := List.append_inj (List.map_append.symm.trans hsame) (List.length_map _)
  have hpair : readdressPair addr (key, old) = (key, addr) := if_pos hkey
  unfold readdress
  rw [if_pos ⟨(key, old), by simp, hkey⟩, List.map_append, List.map_cons, hpair, hbefore, hafter]

theorem readdress_none (h : ∀ x ∈ pairs, ¬ Field.serverAddr.NamedBy x.1) :
    readdress addr pairs = pairs ++ [("SERVER_ADDR", addr)] :=
  if_neg fun ⟨x, hx, hname⟩ => h x hx hname

end NumberRegistry.Settings

namespace NumberRegistry.CommandLine

open Settings (Field ofPairs readdress)

/-! ## What a command does -/

/-- For a command, an address of its own and a variable for it come to the same settings, or
    to the same report, with the same events in the log. -/
theorem loadSettings_readdress (w : Surroundings) (addr : String) :
    Run.loadSettings w (some addr) = Run.loadSettings
      { w with environment := readdress addr (EnvFile.loadNearest w.envFile w.environment), envFile := none } none := by
  have hload : (Settings.load none (readdress addr (EnvFile.loadNearest w.envFile w.environment))).1 =
      (Settings.load w.envFile w.environment).1.map (Settings.withAddress addr) :=
    Settings.ofPairs_readdress addr (EnvFile.loadNearest w.envFile w.environment)
  unfold Run.loadSettings
  dsimp only
  rw [hload]
  cases (Settings.load w.envFile w.environment).1 with
  | error e => rfl
  | ok s => rfl

theorem serve_readdress (w : Surroundings) (addr : String) (migrateFirst : Bool) :
    Run.serve w (some addr) migrateFirst = Run.serve
      { w with environment := readdress addr (EnvFile.loadNearest w.envFile w.environment), envFile := none } none
      migrateFirst := by
  unfold Run.serve
  rw [loadSettings_readdress]
  rfl

/-- Giving the address as an option is the same as setting its variable, whatever the
    variables are and whatever text is given.

    The variables with that address are the ones there are, the text of the one for the
    address replaced, or those with one more at their end if none is for the address. They
    are loaded exactly if the ones there are can be, to the same settings with the given
    address, and otherwise refused for the same fault. A command that is given the address
    goes on with the settings it would have with that variable, or reports the fault it
    would report then: of the load, or of the check that fails first. -/
theorem addr_option_is_variable (pairs : List (String × String)) (addr : String) :
    (∀ before key old after, pairs = before ++ (key, old) :: after → Field.serverAddr.NamedBy key →
      (∀ x ∈ before ++ after, ¬ Field.serverAddr.NamedBy x.1) →
      readdress addr pairs = before ++ (key, addr) :: after) ∧
    ((∀ x ∈ pairs, ¬ Field.serverAddr.NamedBy x.1) →
      readdress addr pairs = pairs ++ [("SERVER_ADDR", addr)]) ∧
    ofPairs (readdress addr pairs) = (ofPairs pairs).map (fun s => { s with serverAddr := addr }) ∧
    ∀ w : Surroundings, EnvFile.loadNearest w.envFile w.environment = pairs →
      let changed := { w with environment := readdress addr pairs, envFile := none }
      Run.loadSettings w (some addr) = Run.loadSettings changed none ∧
        ∀ migrateFirst, Run.serve w (some addr) migrateFirst = Run.serve changed none migrateFirst := by
  refine ⟨?_, Settings.readdress_none, Settings.ofPairs_readdress addr pairs, ?_⟩
  · rintro before key old after rfl hkey hother
    exact Settings.readdress_one hkey hother
  · rintro w rfl
    exact ⟨loadSettings_readdress w addr, serve_readdress w addr⟩

/-- An address that is none, between variables with another fault. -/
def misplaced : List (String × String) :=
  [("POSTGRES_DSN", "postgres://localhost/numbers"), ("Server_Addr", "nowhere"), ("POOL_MAX_CONNECTIONS", "0")]

theorem misplaced_readdressed :
    readdress ":80" misplaced =
        [("POSTGRES_DSN", "postgres://localhost/numbers"), ("Server_Addr", ":80"), ("POOL_MAX_CONNECTIONS", "0")] ∧
      ((ofPairs (readdress ":80" misplaced)).bind fun s => s.validate) =
        .error (.invalidPool "POOL_MAX_CONNECTIONS must be at least 1") ∧
      ((ofPairs misplaced).bind fun s => s.validate) =
        .error (.invalidAddress "nowhere" "invalid socket address syntax") := by
  obtain ⟨hone, -, hload, -⟩ := addr_option_is_variable misplaced ":80"
  have hmisplaced : ofPairs misplaced = .ok
      { postgresDsn := some "postgres://localhost/numbers", serverAddr := "nowhere", poolMaxConnections := 0 } := rfl
  refine ⟨hone [("POSTGRES_DSN", "postgres://localhost/numbers")] "Server_Addr" "nowhere"
    [("POOL_MAX_CONNECTIONS", "0")] rfl (by decide) (by decide), ?_, ?_⟩
  · rw [hload, hmisplaced]
    rfl
  · rw [hmisplaced]
    rfl

end NumberRegistry.CommandLine
