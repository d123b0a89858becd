/-
  NumberRegistry.Proofs.CommandLine.ConfigCheck — what the report on the settings gives away.

  Two calls of `check-config` whose environments differ in the password of the connection
  string are compared. Settings that are alike but for the password have one report
  (`report_alike`), and environments that differ in it are still alike when the environment
  file was read into them (`loadNearest_alike`), unless the file copies the string
  (`FileKeeps`; a file without a dollar sign never does). `copied_password_shows` is a file
  that does.
-/
import Mathlib.Data.List.Forall2
import NumberRegistry.CommandLine.Run
import NumberRegistry.Proofs.EnvFile.Load
import NumberRegistry.Proofs.Settings.Redaction

namespace NumberRegistry.CommandLine

open Settings (Alike Both VariableAlike Field)
open Url (Frame IsPassword)

variable {f : Frame} {p q : String}

theorem report_alike (hp : IsPassword p) (hq : IsPassword q) {r r' : Except Settings.Error Settings}
    (h : Both (Alike f p q) r r') : ConfigCheck.report r = ConfigCheck.report r' := by
  cases h with
  | error e => rfl
  | @ok s t h =>
    have hsummary : ConfigCheck.summary s = ConfigCheck.summary t := by
      have hdsn := h.redactedDsn_eq hp hq
      unfold ConfigCheck.summary
      rw [hdsn, h.rest]
      rfl
    unfold ConfigCheck.report ConfigCheck.ofSettings
    simp only
    rw [h.validate_eq, hsummary]

/-! ## Environments -/

theorem forall₂_of_names {R : String × String → String × String → Prop} {xs ys : List (String × String)}
    (hnames : xs.map (·.1) = ys.map (·.1))
    (h : ∀ name v w, (name, v) ∈ xs → (name, w) ∈ ys → R (name, v) (name, w)) : List.Forall₂ R xs ys := by
  induction xs generalizing ys with
  | nil => rw [List.map_eq_nil_iff.mp hnames.symm]; exact .nil
  | cons x xs ih =>
    cases ys with
    | nil => cases hnames
    | cons y ys =>
      obtain ⟨hxy, hrest⟩ := List.cons_eq_cons.mp hnames
      obtain ⟨name, v⟩ := x
      obtain ⟨_, w⟩ := y
      cases hxy
      exact .cons (h name v w List.mem_cons_self List.mem_cons_self) (ih hrest fun name v w hv hw =>
        h name v w (List.mem_cons_of_mem _ hv) (List.mem_cons_of_mem _ hw))

/-- An environment in which the connection string has this password. -/
def environmentWith (f : Frame) (front back : Environment) (password : String) : Environment :=
  front ++ ("POSTGRES_DSN", f.text password) :: back

/-- The file gives the variables of the settings the same values with one password as with
    another. The connection string is set before. -/
def FileKeeps (file : Option String) (env env' : Environment) : Prop :=
  ∀ name ≠ "POSTGRES_DSN", (Field.ofVariable? name).isSome →
    (EnvFile.loadNearest file env).lookup name = (EnvFile.loadNearest file env').lookup name

variable {file : Option String} {front back : Environment}

theorem environmentWith_alike :
    List.Forall₂ (VariableAlike f p q) (environmentWith f front back p) (environmentWith f front back q) := by
  have hsame (env : Environment) : List.Forall₂ (VariableAlike f p q) env env :=
    List.forall₂_same.mpr fun _ _ => Or.inl rfl
  exact List.rel_append (hsame front) (.cons (Or.inr (Or.inr ⟨rfl, rfl⟩)) (hsame back))

theorem names_environmentWith (f : Frame) (front back : Environment) (p q : String) :
    (environmentWith f front back p).map (·.1) = (environmentWith f front back q).map (·.1) := by
  simp [environmentWith]

theorem loadNearest_alike (h : FileKeeps file (environmentWith f front back p) (environmentWith f front back q)) :
    List.Forall₂ (VariableAlike f p q) (EnvFile.loadNearest file (environmentWith f front back p))
      (EnvFile.loadNearest file (environmentWith f front back q)) := by
  obtain ⟨added, hadded, -, hmem⟩ := EnvFile.loadNearest_adds file (environmentWith f front back p)
  obtain ⟨added', hadded', -, hmem'⟩ := EnvFile.loadNearest_adds file (environmentWith f front back q)
  have hnames := EnvFile.names_loadNearest file (names_environmentWith f front back p q)
  rw [hadded, hadded', List.map_append, List.map_append] at hnames
  have hlater : added.map (·.1) = added'.map (·.1) := (List.append_inj hnames (by simp [environmentWith])).2
  rw [hadded, hadded']
  refine List.rel_append environmentWith_alike (forall₂_of_names hlater fun name v w hv hw => ?_)
  obtain ⟨hunset, hv⟩ := (hmem name v).mp hv
  obtain ⟨-, hw⟩ := (hmem' name w).mp hw
  cases hfield : Field.ofVariable? name with
  | none => exact Or.inr (Or.inl ⟨rfl, hfield⟩)
  | some fld =>
    have hname : name ≠ "POSTGRES_DSN" := by
      rintro rfl
      have hset : EnvFile.isSet (environmentWith f front back p) "POSTGRES_DSN" :=
        EnvFile.isSet_iff_mem.mpr (by simp [environmentWith])
      exact EnvFile.isSet_iff.mp hset hunset
    have hvalue := h name hname (by rw [hfield]; rfl)
    rw [hv, hw] at hvalue
    rw [Option.some.inj hvalue]
    exact Or.inl rfl

/-- A file without a dollar sign copies nothing. -/
theorem fileKeeps_plain (h : ∀ text ∈ file, '$' ∉ text.toList) :
    FileKeeps file (environmentWith f front back p) (environmentWith f front back q) := by
  intro name hname _
  have hgiven : EnvFile.fileAssignments file (environmentWith f front back p) =
      EnvFile.fileAssignments file (environmentWith f front back q) := EnvFile.fileAssignments_plain h _ _
  have hset : (environmentWith f front back p).lookup name = (environmentWith f front back q).lookup name := by
    simp [environmentWith, List.lookup_append, List.lookup_cons, beq_false_of_ne hname]
  rw [EnvFile.loadNearest_eq, EnvFile.loadNearest_eq, EnvFile.lookup_giveAll, EnvFile.lookup_giveAll, hgiven, hset]

/-! ## Calls -/

/-- A command that finds the file read already does what it would have done. -/
theorem Run.command_loadNearest (w : Surroundings) (c : Command) :
    command { w with environment := EnvFile.loadNearest w.envFile w.environment } c = command w c := by
  cases c <;> simp only [command, serve, migrate, checkConfig, loadSettings, withDatabase, Settings.load_loadNearest]

/-- The whole of a check of the configuration: nothing is logged, and the report is on the
    settings that the environment and the file come to. -/
theorem run_checkConfig {args : List String} {i : Invocation} (h : parse args = .ok i)
    (hcommand : i.command = .checkConfig) (w : Surroundings) (time : String) :
    let report := ConfigCheck.report (Settings.load w.envFile w.environment).1
    run args w time =
      { exit := (Report.ofEnding (report.2.elim .done .failed)).1
        output := String.join (report.1.map (· ++ "\n"))
        errors := (Report.ofEnding (report.2.elim .done .failed)).2
        server := w.server } := by
  intro report
  unfold run
  rw [h]
  simp only [Run.command_loadNearest]
  rw [hcommand]
  have hlog (lines : String) : String.join [] ++ lines = lines := String.empty_append
  exact congrArg (Report.mk _ · _ _) (hlog _)

/-- All that can be seen of a call but for what it does to the database. -/
def SameReport (r r' : Report) : Prop := r.output = r'.output ∧ r.errors = r'.errors ∧ r.exit = r'.exit

theorem run_checkConfig_alike (hp : IsPassword p) (hq : IsPassword q) {args : List String} {i : Invocation}
    (h : parse args = .ok i) (hcommand : i.command = .checkConfig) {w w' : Surroundings}
    (henv : List.Forall₂ (VariableAlike f p q) (EnvFile.loadNearest w.envFile w.environment)
      (EnvFile.loadNearest w'.envFile w'.environment)) (time : String) :
    SameReport (run args w time) (run args w' time) := by
  have hreport : ConfigCheck.report (Settings.load w.envFile w.environment).1 =
      ConfigCheck.report (Settings.load w'.envFile w'.environment).1 :=
    report_alike hp hq (Settings.ofPairs_alike henv)
  rw [run_checkConfig h hcommand, run_checkConfig h hcommand, hreport]
  exact ⟨rfl, rfl, rfl⟩

/-- What a connection string with a password gives away.

    The string as it may be shown is the same for every password: if the string is a URL it
    is the URL's text with the password masked and all else as it is. A check of the
    configuration writes the same and ends the same for two passwords if the environments
    that it reads its settings from, the file included, are the same but for them; so it is
    when the environments without the file are, unless the file copies the string to
    another of the settings. -/
theorem password_never_shows (f : Frame) (hp : IsPassword p) (hq : IsPassword q) :
    (∀ s : Settings, { s with postgresDsn := some (f.text p) }.redactedDsn =
      { s with postgresDsn := some (f.text q) }.redactedDsn) ∧
    (∀ s : Settings, ∃ dsn, { s with postgresDsn := some (f.text p) }.dsn = .ok dsn ∧
      ∀ u, Url.parse dsn = .ok u → ∃ a, u.authority = some a ∧ a.password.isSome ∧
        { s with postgresDsn := some (f.text p) }.redactedDsn =
          some { u with authority := some { a with password := some "****" } }.text) ∧
    ∀ (args : List String) (i : Invocation) (w w' : Surroundings) (time : String),
      parse args = .ok i → i.command = .checkConfig →
      (List.Forall₂ (VariableAlike f p q) (EnvFile.loadNearest w.envFile w.environment)
        (EnvFile.loadNearest w'.envFile w'.environment) → SameReport (run args w time) (run args w' time)) ∧
      ∀ front back : Environment, w'.envFile = w.envFile →
        w.environment = environmentWith f front back p → w'.environment = environmentWith f front back q →
        FileKeeps w.envFile w.environment w'.environment → SameReport (run args w time) (run args w' time) := by
  refine ⟨fun s => ?_, fun s => ?_, fun args i w w' time hargs hcommand => ⟨fun henv => ?_, ?_⟩⟩
  · exact Alike.redactedDsn_eq (p := p) (q := q) ⟨rfl, Or.inr ⟨rfl, rfl⟩⟩ hp hq
  · have hdsn := Settings.dsn_text f (s := { s with postgresDsn := some (f.text p) }) rfl
    refine ⟨_, hdsn, fun u hu => ?_⟩
    obtain ⟨-, a, ha, hpassword, -⟩ := (Settings.trimmed f).parse_ok hp hu
    refine ⟨a, ha, hpassword, ?_⟩
    have hredact := Settings.redact_text (Settings.trimmed f) hp
    rw [hu] at hredact
    unfold Settings.redactedDsn
    rw [hdsn]
    simp only [Except.toOption, Option.map_some, hredact, Url.masked, ha]
  · exact run_checkConfig_alike hp hq hargs hcommand henv time
  · intro front back hfile henv henv' hkeeps
    have halike : List.Forall₂ (VariableAlike f p q) (EnvFile.loadNearest w.envFile w.environment)
        (EnvFile.loadNearest w'.envFile w'.environment) := by
      rw [henv, henv'] at hkeeps
      rw [hfile, henv, henv']
      exact loadNearest_alike hkeeps
    exact run_checkConfig_alike hp hq hargs hcommand halike time

/-- A connection string of a database on this machine. -/
def localFrame : Frame where
  scheme := "postgres"
  user := "app"
  place := "localhost:5432/numbers"
  scheme_mem := by decide
  user_free := by simp [Url.endsAuthority, Url.isSlash]
  place_free := by decide

/-- Surroundings in which the connection string has a password, with an environment file. -/
def surroundings (file password : String) : Surroundings where
  environment := environmentWith localFrame [] [] password
  envFile := some file
  now := .first
  server := {}

theorem isPassword_first : IsPassword "se:cr@t" :=
  ⟨by simp [Url.endsAuthority, Url.isSlash], 's', by decide, by decide⟩

theorem isPassword_second : IsPassword "other 100%" :=
  ⟨by simp [Url.endsAuthority, Url.isSlash], 'o', by decide, by decide⟩

theorem two_passwords_one_report :
    SameReport (run ["check-config"] (surroundings "RUST_LOG=debug" "se:cr@t") "")
      (run ["check-config"] (surroundings "RUST_LOG=debug" "other 100%") "") :=
  ((password_never_shows localFrame isPassword_first isPassword_second).2.2 ["check-config"]
    { command := .checkConfig } _ _ "" (by decide) rfl).2 [] [] rfl rfl rfl
    (fileKeeps_plain fun text htext => by cases htext; decide)

/-- A file that copies the connection string to the log level has its password shown. -/
theorem copied_password_shows :
    IsPassword "se:cr@t" ∧ IsPassword "other 100%" ∧
      (run ["check-config"] (surroundings "RUST_LOG=$\x7bPOSTGRES_DSN\x7d" "se:cr@t") "").output ≠
        (run ["check-config"] (surroundings "RUST_LOG=$\x7bPOSTGRES_DSN\x7d" "other 100%") "").output :=
  ⟨isPassword_first, isPassword_second, by decide +kernel⟩

end NumberRegistry.CommandLine
