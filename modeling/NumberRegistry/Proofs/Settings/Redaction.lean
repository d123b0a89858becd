/-
  NumberRegistry.Proofs.Settings.Redaction — settings that differ in a password.

  `redact_same`: a connection string is shown the same whatever its password is, and if it
  is a URL with nothing but the password masked (`redact_text`). Settings loaded from
  environments that differ in the password alone differ in it alone, or fail with one and
  the same error (`loadFrom_alike`); what is wrong with them and what is shown of them is
  the same (`Alike.validate_eq`, `Alike.redactedDsn_eq`).
-/
import NumberRegistry.Proofs.Settings.Load
import NumberRegistry.Proofs.Url.Userinfo
import NumberRegistry.Settings.Validate

namespace NumberRegistry

open Text

namespace Url

/-- A URL with its password masked, whatever it is. -/
def masked (u : Url) : Url :=
  { u with authority := u.authority.map fun a => { a with password := some "****" } }

namespace Frame

variable (f : Frame) {p q : String}

theorem parse_masked (hp : IsPassword p) (hq : IsPassword q) :
    (parse (f.text p)).map masked = (parse (f.text q)).map masked := by
  rw [f.parse_text hp, f.parse_text hq]
  cases (behindLogin f.scheme (contentEnd f.place.toList)).1 <;> rfl

theorem parse_ok (hp : IsPassword p) {u : Url} (h : parse (f.text p) = .ok u) :
    u.scheme = f.scheme ∧ ∃ a, u.authority = some a ∧ a.password.isSome ∧ a.host ≠ .name "" := by
  rw [f.parse_text hp] at h
  cases hplace : (behindLogin f.scheme (contentEnd f.place.toList)).1 with
  | error e => rw [hplace] at h; cases h
  | ok place =>
    rw [hplace] at h
    cases h
    obtain ⟨host, port, path⟩ := place
    obtain ⟨_, -, hhost, -⟩ := parsePlace_ok hplace
    exact ⟨rfl, _, rfl, rfl, hhost rfl⟩

theorem withPassword_eq (hp : IsPassword p) {u : Url} (h : parse (f.text p) = .ok u) :
    (if u.password?.isSome then u.withPassword "****" else u) = u.masked := by
  obtain ⟨hscheme, a, ha, hpassword, hhost⟩ := f.parse_ok hp h
  have hfile : u.scheme ≠ "file" := by
    rw [hscheme]
    intro he
    exact absurd f.scheme_plain (by rw [he]; decide)
  have hmask : encodeText inUserinfo "****".toList = "****" := by decide
  have hsome : u.password?.isSome := by rw [password?, ha]; exact hpassword
  rw [if_pos hsome, withPassword, masked, ha]
  simp only [hhost, hfile, or_self, if_false, hmask, Option.map_some]

end Frame

end Url

namespace Settings

open Url (Frame IsPassword)

variable (f : Frame) {p q : String}

theorem redact_text (hp : IsPassword p) :
    redact (f.text p) = match Url.parse (f.text p) with
      | .ok u => u.masked.text
      | .error _ => "<unparsed dsn>" := by
  unfold redact
  cases hu : Url.parse (f.text p) with
  | ok u => exact congrArg Url.text (f.withPassword_eq hp hu)
  | error e => rfl

theorem redact_same (hp : IsPassword p) (hq : IsPassword q) : redact (f.text p) = redact (f.text q) := by
  have h := f.parse_masked hp hq
  rw [redact_text f hp, redact_text f hq]
  cases hu : Url.parse (f.text p) <;> cases hv : Url.parse (f.text q) <;> rw [hu, hv] at h
  · cases h
  · cases h
  · exact congrArg Url.text (Except.ok.inj h)

/-- The frame that is left when the settings drop white space behind the string. -/
def trimmed : Frame where
  __ := f
  place := String.ofList (dropBlankEnd f.place.toList)
  place_free := by
    rw [String.toList_ofList]
    exact fun h => f.place_free (Url.mem_takeWhile_of_prefix (List.rdropWhile_prefix isBlank _) h)

theorem trim_text (p : String) : trim (f.text p).toList = ((trimmed f).text p).toList := by
  have hhead : ∀ c ∈ (f.text p).toList.head?, isBlank c = false := by
    rw [f.toList_text, List.head?_append, f.head?_front]
    rintro c ⟨⟩
    decide
  have hlast : ∀ c ∈ (f.front p).getLast?, isBlank c = false := by
    rw [f.getLast?_front]
    rintro c ⟨⟩
    decide
  rw [trim, dropWhile_of_head hhead, f.toList_text, dropBlankEnd, dropEnd_append hlast, Frame.toList_text, trimmed,
    String.toList_ofList]
  rfl

theorem dsn_text {s : Settings} (h : s.postgresDsn = some (f.text p)) : s.dsn = .ok ((trimmed f).text p) := by
  obtain ⟨cs, hcs⟩ : ∃ cs, ((trimmed f).text p).toList = 'p' :: cs :=
    List.head?_eq_some_iff.mp (by rw [Frame.toList_text, List.head?_append, Frame.head?_front]; rfl)
  unfold dsn
  rw [h, Option.map_some, trim_text, hcs]
  simp only
  rw [← hcs, String.ofList_toList]

/-! ## Settings with one password or another -/

/-- Settings that are the same but for the password of the connection string. -/
structure Alike (p q : String) (s t : Settings) : Prop where
  rest : t = { s with postgresDsn := t.postgresDsn }
  dsn : s.postgresDsn = t.postgresDsn ∨ s.postgresDsn = some (f.text p) ∧ t.postgresDsn = some (f.text q)

/-- A variable in one environment and in the other: the same, or one that sets nothing, or
    the connection string with its password. -/
def VariableAlike (p q : String) (x y : String × String) : Prop :=
  x = y ∨ x.1 = y.1 ∧ Field.ofVariable? x.1 = none ∨
    x = ("POSTGRES_DSN", f.text p) ∧ y = ("POSTGRES_DSN", f.text q)

/-- Two results that fail with the same error, or succeed with related values. -/
inductive Both {ε α : Type} (R : α → α → Prop) : Except ε α → Except ε α → Prop where
  | error (e : ε) : Both R (.error e) (.error e)
  | ok {a b : α} (h : R a b) : Both R (.ok a) (.ok b)

section
variable {ε δ α β : Type} {R : α → α → Prop}

theorem Both.map {g g' : β → α} (h : ∀ b, R (g b) (g' b)) (r : Except ε β) : Both R (r.map g) (r.map g') := by
  cases r with
  | error e => exact .error e
  | ok b => exact .ok (h b)

theorem Both.bind {r r' : Except ε α} (h : Both R r r') {S : β → β → Prop} {g g' : α → Except ε β}
    (hg : ∀ a b, R a b → Both S (g a) (g' b)) : Both S (r.bind g) (r'.bind g') := by
  cases h with
  | error e => exact .error e
  | ok h => exact hg _ _ h

theorem Both.mapError {r r' : Except ε α} (h : Both R r r') (g : ε → δ) : Both R (r.mapError g) (r'.mapError g) := by
  cases h with
  | error e => exact .error (g e)
  | ok h => exact .ok h

end

variable {f} {s t : Settings}

theorem set_alike (h : Alike f p q s t) (key value : String) (fld : Field) :
    Both (Alike f p q) (s.set key value fld) (t.set key value fld) := by
  obtain ⟨hrest, hdsn⟩ := h
  generalize t.postgresDsn = d at hrest hdsn
  subst hrest
  cases fld with
  | postgresDsn => exact .ok ⟨rfl, Or.inl rfl⟩
  | serverAddr | logLevel => exact .ok ⟨rfl, hdsn⟩
  | poolMaxConnections | poolMinConnections | poolMaxLifetimeSecs | poolMaxIdleSecs | poolHealthCheckSecs
  | poolAcquireTimeoutSecs | requestTimeoutSecs | shutdownTimeoutSecs => exact .map (fun _ => ⟨rfl, hdsn⟩) _

theorem set_password (h : Alike f p q s t) (key : String) :
    Both (Alike f p q) (s.set key (f.text p) .postgresDsn) (t.set key (f.text q) .postgresDsn) := by
  obtain ⟨hrest, -⟩ := h
  exact .ok ⟨by rw [hrest], Or.inr ⟨rfl, rfl⟩⟩

theorem ofVariable?_dsn : Field.ofVariable? "POSTGRES_DSN" = some .postgresDsn := by decide

theorem loadFrom_alike {env env' : List (String × String)} (henv : List.Forall₂ (VariableAlike f p q) env env')
    (seen : List Field) (h : Alike f p q s t) :
    Both (Alike f p q) (loadFrom seen s env) (loadFrom seen t env') := by
  induction henv generalizing seen s t with
  | nil => exact .ok h
  | @cons x y env env' hxy _ ih =>
    rw [loadFrom_cons, loadFrom_cons]
    obtain rfl | ⟨hname, hnone⟩ | ⟨rfl, rfl⟩ := hxy
    · cases Field.ofVariable? x.1 with
      | none => exact ih seen h
      | some fld =>
        simp only
        split
        · exact .error _
        · exact (set_alike h x.1 x.2 fld).bind fun _ _ h => ih _ h
    · rw [← hname, hnone]
      exact ih seen h
    · rw [ofVariable?_dsn]
      simp only
      split
      · exact .error _
      · exact (set_password h _).bind fun _ _ h => ih _ h

theorem ofPairs_alike {env env' : List (String × String)} (henv : List.Forall₂ (VariableAlike f p q) env env') :
    Both (Alike f p q) (ofPairs env) (ofPairs env') :=
  (loadFrom_alike henv [] ⟨rfl, Or.inl rfl⟩).mapError _

/-- Which of the two passwords it is does not matter to what is wrong with the settings. -/
theorem Alike.validate_eq (h : Alike f p q s t) : s.validate = t.validate := by
  obtain ⟨hrest, hsame | ⟨hs, ht⟩⟩ := h
  · rw [hrest, ← hsame]
  · have hdsn := dsn_text f hs
    have hdsn' := dsn_text f ht
    rw [hrest] at hdsn' ⊢
    unfold validate
    rw [hdsn, hdsn']
    rfl

theorem Alike.redactedDsn_eq (h : Alike f p q s t) (hp : IsPassword p) (hq : IsPassword q) :
    s.redactedDsn = t.redactedDsn := by
  obtain ⟨hrest, hsame | ⟨hs, ht⟩⟩ := h
  · rw [hrest, ← hsame]
  · unfold redactedDsn
    rw [dsn_text f hs, dsn_text f ht]
    exact congrArg some (redact_same (trimmed f) hp hq)

end Settings

end NumberRegistry
