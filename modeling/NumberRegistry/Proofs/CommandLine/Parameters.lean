/-
  NumberRegistry.Proofs.CommandLine.Parameters — a password among the parameters is shown.

  The parameters of a connection string are in its query, and the last password among them
  is the one to connect with (`parse_password`). Masking replaces the password in front of
  the host and leaves the query as it is, so a reader of the masked string finds that
  password (`passwordIn_redact`), and so does a reader of the report on the settings
  (`passwordIn_report`). Strings with different passwords are shown differently.
-/
import NumberRegistry.Proofs.CommandLine.ConfigCheck
import NumberRegistry.Proofs.Database.ConnectOptions
import NumberRegistry.Proofs.Url.Written

namespace NumberRegistry

open Database (ConnectOptions lastValue? lastValue?_isSome mem_of_lastValue?)

/-! ## What is shown -/

/-- A reader of a line with a connection string finds the password among its parameters. -/
def passwordIn (text : String) : Option String :=
  lastValue? "password" (Http.Form.decode (String.ofList (Url.queryIn text.toList)))

namespace Settings

variable {dsn q : String} {u : Url}

/-- The string as it is shown is the text of a URL with the same query. -/
theorem redact_clear (hu : Url.parse dsn = .ok u) : ∃ v : Url, v.Clear ∧ v.query = u.query ∧ redact dsn = v.text := by
  have hclear := Url.parse_clear hu
  unfold redact
  rw [hu]
  simp only
  by_cases hpassword : u.password?.isSome
  · rw [if_pos hpassword]
    refine ⟨_, hclear.withPassword "****", ?_, rfl⟩
    unfold Url.withPassword
    split
    · split
      · rfl
      · rfl
    · rfl
  · rw [if_neg hpassword]
    exact ⟨u, hclear, rfl, rfl⟩

theorem passwordIn_redact (hu : Url.parse dsn = .ok u) (hq : u.query = some q) {front back : String}
    (hfront : '?' ∉ front.toList) (hback : ∀ c ∈ back.toList.head?, c = '\n') :
    passwordIn (front ++ redact dsn ++ back) = lastValue? "password" (Http.Form.decode q) := by
  obtain ⟨v, hv, hquery, hshown⟩ := redact_clear hu
  unfold passwordIn
  rw [hshown, String.toList_append, String.toList_append, hv.queryIn_text (hquery.trans hq) hfront hback,
    String.ofList_toList]

end Settings

namespace CommandLine

/-- The lines of a report on accepted settings in front of the connection string. -/
def firstLines : List String :=
  ConfigCheck.heading ++ ["Loading configuration... OK", "Validating configuration... OK", ConfigCheck.rule '-',
    "Configuration Summary:"]

/-- What a report on accepted settings begins with. -/
def upToDatabase : String := String.join (firstLines.map (· ++ "\n")) ++ "  Database: "

theorem upToDatabase_clear : '?' ∉ upToDatabase.toList := by
  have hlines : ∀ line ∈ firstLines, '?' ∉ line.toList := by decide
  unfold upToDatabase
  rw [String.toList_append, String.toList_join]
  intro hmem
  rcases List.mem_append.mp hmem with hmem | hmem
  · obtain ⟨_, hmem, hc⟩ := List.mem_flatMap.mp hmem
    obtain ⟨line, hline, rfl⟩ := List.mem_map.mp hmem
    rw [String.toList_append] at hc
    rcases List.mem_append.mp hc with hc | hc
    · exact hlines line hline hc
    · exact absurd hc (by decide)
  · exact absurd hmem (by decide)

theorem report_accepted {s : Settings} (hvalid : s.validate = .ok ()) :
    ∃ after, String.join ((ConfigCheck.report (.ok s)).1.map (· ++ "\n")) =
      upToDatabase ++ s.redactedDsn.getD "<unset>" ++ ("\n" ++ after) := by
  obtain ⟨rest, hlines⟩ : ∃ rest, (ConfigCheck.report (.ok s)).1 =
      firstLines ++ ("  Database: " ++ s.redactedDsn.getD "<unset>") :: rest := by
    unfold ConfigCheck.report ConfigCheck.ofSettings
    simp only [hvalid]
    exact ⟨_, rfl⟩
  refine ⟨String.join (rest.map (· ++ "\n")), ?_⟩
  rw [hlines, List.map_append, String.join_append, List.map_cons, String.join_cons]
  simp only [upToDatabase, String.append_assoc]

/-- A connection string that is accepted, with a password among its parameters. -/
structure GivesPassword (dsn : String) (o : ConnectOptions) : Prop where
  accepted : (ConnectOptions.parse dsn).1 = .ok o
  given : ∃ u q value, Url.parse dsn = .ok u ∧ u.query = some q ∧ ("password", value) ∈ Http.Form.decode q

variable {dsn : String} {o : ConnectOptions}

theorem GivesPassword.query (h : GivesPassword dsn o) : ∃ u q password, Url.parse dsn = .ok u ∧ u.query = some q ∧
    lastValue? "password" (Http.Form.decode q) = some password ∧ o.password = some password := by
  obtain ⟨u, q, value, hu, hq, hvalue⟩ := h.given
  obtain ⟨password, hpassword⟩ := Option.isSome_iff_exists.mp (lastValue?_isSome hvalue)
  refine ⟨u, q, password, hu, hq, hpassword, ?_⟩
  exact ConnectOptions.parse_password h.accepted hu (by rw [hq]; exact hpassword)

/-- The password can be read off the string that is shown, in whatever line it stands. -/
theorem GivesPassword.passwordIn_shown (h : GivesPassword dsn o) {front back : String} (hfront : '?' ∉ front.toList)
    (hback : ∀ c ∈ back.toList.head?, c = '\n') : passwordIn (front ++ Settings.redact dsn ++ back) = o.password := by
  obtain ⟨u, q, password, hu, hq, hlast, hpassword⟩ := h.query
  rw [Settings.passwordIn_redact hu hq hfront hback, hlast, hpassword]

theorem GivesPassword.passwordIn_report (h : GivesPassword dsn o) {s : Settings} (hvalid : s.validate = .ok ())
    (hdsn : s.dsn = .ok dsn) :
    passwordIn (String.join ((ConfigCheck.report (.ok s)).1.map (· ++ "\n"))) = o.password := by
  have hshown : s.redactedDsn = some (Settings.redact dsn) := by
    unfold Settings.redactedDsn
    rw [hdsn]
    rfl
  obtain ⟨after, hreport⟩ := report_accepted hvalid
  rw [hreport, hshown, Option.getD_some]
  refine h.passwordIn_shown upToDatabase_clear fun c hc => ?_
  rw [String.toList_append] at hc
  cases hc
  rfl

/-- What a connection string with a password among its parameters gives away.

    If such a string is accepted, then the password to connect with is the last of those in
    its query, and the query stands in the masked string as it is. So this password can be
    read off the masked string, strings with different passwords are shown differently, and
    a check of the configuration that passes writes it out. -/
theorem parameter_password_shows (h : GivesPassword dsn o) :
    (∃ u q password, Url.parse dsn = .ok u ∧ u.query = some q ∧ ("password", password) ∈ Http.Form.decode q ∧
      o.password = some password ∧ ∃ front back, Settings.redact dsn = front ++ "?" ++ q ++ back) ∧
    passwordIn (Settings.redact dsn) = o.password ∧
    (∀ dsn' o', GivesPassword dsn' o' → o.password ≠ o'.password → Settings.redact dsn ≠ Settings.redact dsn') ∧
    ∀ (args : List String) (i : Invocation) (w : Surroundings) (s : Settings) (time : String),
      parse args = .ok i → i.command = .checkConfig → (Settings.load w.envFile w.environment).1 = .ok s →
      s.validate = .ok () → s.dsn = .ok dsn → passwordIn (run args w time).output = o.password := by
  have hshown {dsn : String} {o : ConnectOptions} (h : GivesPassword dsn o) :
      passwordIn (Settings.redact dsn) = o.password := by
    have hline : passwordIn ("" ++ Settings.redact dsn ++ "") = o.password := h.passwordIn_shown nofun nofun
    rwa [String.empty_append, String.append_empty] at hline
  refine ⟨?_, hshown h, fun dsn' o' h' hne hsame => ?_, fun args i w s time hargs hcommand hload hvalid hdsn => ?_⟩
  · obtain ⟨u, q, password, hu, hq, hlast, hpassword⟩ := h.query
    obtain ⟨v, -, hquery, hredact⟩ := Settings.redact_clear hu
    refine ⟨u, q, password, hu, hq, mem_of_lastValue? hlast, hpassword, v.scheme ++ ":" ++ v.authorityText ++ v.path.text,
      v.fragmentText, ?_⟩
    rw [hredact, Url.text, Url.queryText, hquery, hq, Option.elim_some, ← String.append_assoc]
  · apply hne
    rw [← hshown h, ← hshown h', hsame]
  · rw [run_checkConfig hargs hcommand, hload]
    dsimp only
    exact h.passwordIn_report hvalid hdsn

/-- A connection string that gives a password as a parameter. -/
def parameterDsn (password : String) : String := "postgres://app@localhost/numbers?password=" ++ password

/-- What it is read as. -/
def parameterOptions (password : String) : ConnectOptions where
  user := some "app"
  password := some password
  database := some "numbers"

def parameterUrl (password : String) : Url where
  scheme := "postgres"
  authority := some ⟨"app", none, .name "localhost", none⟩
  path := .rooted ["numbers"]
  query := some ("password=" ++ password)
  fragment := none

theorem gives_secret : GivesPassword (parameterDsn "secret") (parameterOptions "secret") :=
  ⟨ConnectOptions.parse_of_toOption (by decide +kernel), parameterUrl "secret", _, "secret", rfl, rfl, by decide +kernel⟩

theorem gives_other : GivesPassword (parameterDsn "other") (parameterOptions "other") :=
  ⟨ConnectOptions.parse_of_toOption (by decide +kernel), parameterUrl "other", _, "other", rfl, rfl, by decide +kernel⟩

/-- Surroundings with such a connection string. -/
def parameterSurroundings : Surroundings where
  environment := [("POSTGRES_DSN", parameterDsn "secret")]
  envFile := none
  now := .first
  server := {}

theorem secret_parameter_shows :
    passwordIn (Settings.redact (parameterDsn "secret")) = some "secret" ∧
      Settings.redact (parameterDsn "secret") ≠ Settings.redact (parameterDsn "other") ∧
      passwordIn (run ["check-config"] parameterSurroundings "").output = some "secret" := by
  obtain ⟨-, hshown, hdiffer, hreport⟩ := parameter_password_shows gives_secret
  refine ⟨hshown, hdiffer _ _ gives_other (by decide), ?_⟩
  exact hreport ["check-config"] { command := .checkConfig } parameterSurroundings
    { postgresDsn := some (parameterDsn "secret") } "" (by decide) rfl rfl rfl rfl

/-- Two values of the parameter, each accepted as the password, that do not show as the
    same. -/
theorem parameter_passwords_differ :
    GivesPassword (parameterDsn "secret") (parameterOptions "secret") ∧
      GivesPassword (parameterDsn "other") (parameterOptions "other") ∧
      Settings.redact (parameterDsn "secret") ≠ Settings.redact (parameterDsn "other") :=
  ⟨gives_secret, gives_other, by decide +kernel⟩

end CommandLine

end NumberRegistry
