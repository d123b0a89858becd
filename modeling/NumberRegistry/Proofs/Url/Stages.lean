/-
  NumberRegistry.Proofs.Url.Stages — what each stage of the reader has read.

  One lemma for each stage that can fail: if it gives something, these are the parts that
  it was made of. Who follows a URL back to its text goes through them, and not into the
  reader.
-/
import NumberRegistry.Proofs.Text.Decimal
import NumberRegistry.Url.Resolve

namespace NumberRegistry.Url

open Text

theorem bind_eq_ok {ε α β : Type} {x : Except ε α} {f : α → Except ε β} {b : β} (h : x >>= f = .ok b) :
    ∃ a, x = .ok a ∧ f a = .ok b := by
  cases x with
  | error e => cases h
  | ok a => exact ⟨a, rfl, h⟩

/-- A port is what the digits say, if it is not the default one; the digits end it. -/
theorem parsePort_ok {default port : Option UInt16} {s rest : List Char} (h : parsePort default s = .ok (port, rest)) :
    rest = s.dropWhile Char.isDigit ∧ ∀ p ∈ port, some p ≠ default := by
  unfold parsePort at h
  dsimp only at h
  split at h
  · cases h
  · split at h
    · cases h
    · split at h
      · cases h
        exact ⟨rfl, nofun⟩
      · rename_i hother
        cases h
        refine ⟨rfl, ?_⟩
        rintro p ⟨⟩
        exact fun heq => hother (Or.inr heq)

theorem optionalPort_ok {default port : Option UInt16} {s rest : List Char} (h : optionalPort default s = .ok (port, rest)) :
    (∀ c ∈ rest, c ∈ s) ∧ ∀ p ∈ port, some p ≠ default := by
  unfold optionalPort at h
  split at h
  · obtain ⟨rfl, hport⟩ := parsePort_ok h
    exact ⟨fun c hc => List.mem_cons_of_mem ':' ((List.dropWhile_sublist Char.isDigit).mem hc), hport⟩
  · cases h
    exact ⟨nofun, nofun⟩

theorem parsePlace_ok {scheme : String} {hasUser : Bool} {s t : List Char} {host : Host} {port : Option UInt16} {path : Path}
    (h : parsePlace scheme hasUser s t = .ok (host, port, path)) :
    ∃ rest, parseHost (isSpecial scheme) (splitHost false s).1 = .ok host ∧ (hasUser = true → host ≠ .name "") ∧
      optionalPort (defaultPort? scheme) (splitHost false s).2 = .ok (port, rest) ∧
      path = authorityPath (isSpecial scheme) (rest ++ t) := by
  obtain ⟨host, hhost, h⟩ := bind_eq_ok h
  split at h
  · cases h
  · rename_i hnamed
    obtain ⟨⟨port, rest⟩, hport, h⟩ := bind_eq_ok h
    cases h
    exact ⟨rest, hhost, fun huser hname => hnamed ⟨hname, Or.inr huser⟩, hport, rfl⟩

/-- Name and password are encoded, and there is no empty password. -/
theorem parseUserinfo_ok {s : List Char} {username : String} {password : Option String}
    (h : parseUserinfo s = (username, password)) :
    (∃ name, username = encodeText inUserinfo name) ∧
      ∀ p ∈ password, ∃ secret, secret ≠ [] ∧ p = encodeText inUserinfo secret := by
  unfold parseUserinfo at h
  dsimp only at h
  obtain ⟨rfl, rfl⟩ := Prod.mk.inj h
  refine ⟨⟨_, rfl⟩, fun p hp => ?_⟩
  split at hp
  · cases hp
  · rename_i hrest
    cases hp
    exact ⟨_, hrest, rfl⟩

theorem parseAuthority_ok {scheme : String} {more : Bool} {s : List Char} {a : Authority} {path : Path}
    (h : parseAuthority scheme more s = .ok (a, path)) :
    (∃ hasUser rest t, parsePlace scheme hasUser rest t = .ok (a.host, a.port, path)) ∧
      (a.username = "" ∧ a.password = none ∨ ∃ user, parseUserinfo user = (a.username, a.password)) := by
  -- Each way to read the userinfo goes on with the place.
  have hplaced {hasUser : Bool} {username : String} {password : Option String} {rest t : List Char}
      (huser : username = "" ∧ password = none ∨ ∃ user, parseUserinfo user = (username, password))
      (hrest : (do let x ← parsePlace scheme hasUser rest t; pure (⟨username, password, x.1, x.2.1⟩, x.2.2)) =
        Except.ok (ε := ParseError) (a, path)) :
      (∃ hasUser rest t, parsePlace scheme hasUser rest t = .ok (a.host, a.port, path)) ∧
        (a.username = "" ∧ a.password = none ∨ ∃ user, parseUserinfo user = (a.username, a.password)) := by
    obtain ⟨⟨host, port, path⟩, hplace, hrest⟩ := bind_eq_ok hrest
    cases hrest
    exact ⟨⟨_, _, _, hplace⟩, huser⟩
  unfold parseAuthority at h
  dsimp only at h
  split at h
  · exact hplaced (Or.inl ⟨rfl, rfl⟩) h
  · split at h
    · cases h
    · exact hplaced (Or.inl ⟨rfl, rfl⟩) h
  · exact hplaced (Or.inr ⟨_, rfl⟩) h

/-- A URL is of a file, or of a scheme that has a host, or of any other. -/
theorem parse_ok {text : String} {u : Url} (h : parse text = .ok u) :
    ∃ rest, splitScheme? (content text.toList) = some (u.scheme, rest) ∧
      (splitTail (isSpecial u.scheme) rest).2 = (u.query, u.fragment) ∧
      ((u.scheme = "file" ∧ ∃ s a, u.authority = some a ∧ parseFile s = .ok (a, u.path)) ∨
        (isSpecial u.scheme = true ∧ ∃ more s a, u.authority = some a ∧ parseAuthority u.scheme more s = .ok (a, u.path)) ∨
        (isSpecial u.scheme = false ∧
          ∃ more, parseOrdinary u.scheme more (splitTail (isSpecial u.scheme) rest).1 = .ok (u.authority, u.path))) := by
  unfold parse at h
  split at h
  · cases h
  · rename_i scheme rest hscheme
    dsimp only at h
    split at h
    · rename_i hfile
      obtain ⟨_, hread, h⟩ := bind_eq_ok h
      obtain ⟨⟨a, path⟩, ha, rfl⟩ := Decimal.map_ok_iff.mp hread
      cases h
      exact ⟨rest, hscheme, rfl, Or.inl ⟨hfile, _, a, rfl, ha⟩⟩
    · split at h
      · rename_i hspecial
        obtain ⟨_, hread, h⟩ := bind_eq_ok h
        obtain ⟨⟨a, path⟩, ha, rfl⟩ := Decimal.map_ok_iff.mp hread
        cases h
        exact ⟨rest, hscheme, rfl, Or.inr (Or.inl ⟨hspecial, _, _, a, rfl, ha⟩)⟩
      · rename_i hspecial
        obtain ⟨⟨authority, path⟩, hread, h⟩ := bind_eq_ok h
        cases h
        exact ⟨rest, hscheme, rfl, Or.inr (Or.inr ⟨by simpa using hspecial, _, hread⟩)⟩

end NumberRegistry.Url
