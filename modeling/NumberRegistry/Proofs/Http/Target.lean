/-
  NumberRegistry.Proofs.Http.Target — absolute URLs that a request can be made for.

  The target of a URL is its path and its query (`parse_absolute`), if its authority is a
  host and perhaps a port. The reader of an authority counts colons since the last
  bracket, so the colons of an address in brackets do not count with the one before the
  port (`scanFrom_named`, `scanFrom_bracketed`).
-/
import NumberRegistry.Http.Target
import NumberRegistry.Proofs.Text.Parts

namespace NumberRegistry.Http.Target

open Text (Utf8.encode takeWhile_exact dropWhile_exact)

/-! ## Authority -/

/-- A character that a host is made of, to the reader no more than a character. -/
def IsHostChar (c : Char) : Prop := isAuthorityChar c = true ∧ c ∉ [':', '@', '[', ']']

instance : DecidablePred IsHostChar := fun c =>
  inferInstanceAs (Decidable (isAuthorityChar c = true ∧ c ∉ [':', '@', '[', ']']))

variable {a : AuthorityScan} {s t : List Char}

theorem scanChar_host {c : Char} (h : IsHostChar c) : scanChar c a = .ok { a with endsInAt := false } := by
  obtain ⟨hc, hne⟩ := h
  simp only [List.mem_cons, List.not_mem_nil, or_false, not_or] at hne
  have hpercent : c ≠ '%' := by rintro rfl; exact absurd hc (by decide)
  unfold scanChar
  dsimp only
  split
  case h_6 => exact if_pos hc
  all_goals simp_all

theorem scanFrom_append : scanFrom a (s ++ t) = (scanFrom a s).bind fun b => scanFrom b t := by
  induction s generalizing a with
  | nil => rfl
  | cons c s ih =>
    simp only [List.cons_append, scanFrom]
    cases scanChar c a with
    | error e => rfl
    | ok b => exact ih

/-- Characters of a host and colons change no more than the number of colons. -/
theorem scanFrom_host (hs : ∀ c ∈ s, c = ':' ∨ IsHostChar c) (ha : a.endsInAt = false) (hcolons : a.colons + s.count ':' ≤ 8) :
    scanFrom a s = .ok { a with colons := a.colons + s.count ':' } := by
  induction s generalizing a with
  | nil => rfl
  | cons c s ih =>
    have hrest : ∀ d ∈ s, d = ':' ∨ IsHostChar d := fun d hd => hs d (List.mem_cons_of_mem _ hd)
    rw [scanFrom]
    rcases hs c List.mem_cons_self with rfl | hc
    · rw [List.count_cons_self] at hcolons ⊢
      have hstep : scanChar ':' a = .ok { a with colons := a.colons + 1, endsInAt := false } :=
        if_neg (by dsimp only; omega)
      rw [hstep, Except.bind, ih hrest rfl (by dsimp only; omega)]
      dsimp only
      rw [ha, Nat.add_assoc, Nat.add_comm 1]
    · have hne : c ≠ ':' := by rintro rfl; exact absurd hc (by decide)
      rw [List.count_cons_of_ne hne] at hcolons ⊢
      rw [scanChar_host hc, Except.bind, ih (a := { a with endsInAt := false }) hrest rfl hcolons, ha]

/-- A port behind its colon, or none. -/
def IsPort (s : List Char) : Prop := s = [] ∨ ∃ ds, s = ':' :: ds ∧ ∀ c ∈ ds, c.isDigit = true

theorem isHostChar_of_isAlphanum {c : Char} (h : c.isAlphanum = true) : IsHostChar c := by
  refine ⟨by simp [isAuthorityChar, h], fun hc => ?_⟩
  simp only [List.mem_cons, List.not_mem_nil, or_false] at hc
  rcases hc with rfl | rfl | rfl | rfl <;> exact absurd h (by decide)

theorem isHostChar_of_isDigit {c : Char} (h : c.isDigit = true) : IsHostChar c :=
  isHostChar_of_isAlphanum (by simp [Char.isAlphanum, h])

theorem IsPort.spec (h : IsPort s) : (∀ c ∈ s, c = ':' ∨ IsHostChar c) ∧ s.count ':' ≤ 1 := by
  rcases h with rfl | ⟨ds, rfl, hds⟩
  · exact ⟨by simp, by simp⟩
  · have hhost : ∀ c ∈ ds, IsHostChar c := fun c hc => isHostChar_of_isDigit (hds c hc)
    have hcount : ds.count ':' = 0 := List.count_eq_zero.mpr fun hc => absurd (hhost ':' hc) (by decide)
    refine ⟨fun c hc => ?_, by simp [hcount]⟩
    rcases List.mem_cons.mp hc with rfl | hc
    · exact Or.inl rfl
    · exact Or.inr (hhost c hc)

/-- An authority that is accepted and ends where a path begins. -/
def IsAuthority (s : List Char) : Prop :=
  s ≠ [] ∧ (∀ c ∈ s, endsAuthority c = false) ∧
    ∃ a, scanFrom {} s = .ok a ∧ a.opened = a.closed ∧ a.colons ≤ 1 ∧ a.endsInAt = false ∧ a.percent = false

theorem endsAuthority_host {c : Char} (h : c = ':' ∨ IsHostChar c) : endsAuthority c = false := by
  simp only [endsAuthority, Bool.or_eq_false_iff, beq_eq_false_iff_ne]
  refine ⟨⟨?_, ?_⟩, ?_⟩ <;> (rintro rfl; exact absurd h (by decide))

theorem isAuthority_named (hne : s ≠ []) (hs : ∀ c ∈ s, IsHostChar c) (ht : IsPort t) : IsAuthority (s ++ t) := by
  obtain ⟨htc, hcount⟩ := ht.spec
  have hall : ∀ c ∈ s ++ t, c = ':' ∨ IsHostChar c := fun c hc => by
    rcases List.mem_append.mp hc with hc | hc
    · exact Or.inr (hs c hc)
    · exact htc c hc
  have hzero : s.count ':' = 0 := List.count_eq_zero.mpr fun hc => absurd (hs ':' hc) (by decide)
  have hsum : (s ++ t).count ':' ≤ 1 := by rw [List.count_append, hzero]; omega
  refine ⟨by simp [hne], fun c hc => endsAuthority_host (hall c hc), _, scanFrom_host hall rfl ?_, rfl, ?_, rfl, rfl⟩
  · simp only; omega
  · simp only; omega

theorem isAuthority_bracketed (hs : ∀ c ∈ s, c = ':' ∨ IsHostChar c) (hcount : s.count ':' ≤ 8) (ht : IsPort t) :
    IsAuthority ('[' :: (s ++ ']' :: t)) := by
  obtain ⟨htc, htcount⟩ := ht.spec
  refine ⟨List.cons_ne_nil _ _, fun c hc => ?_,
    { colons := t.count ':', opened := true, closed := true }, ?_, rfl, htcount, rfl, rfl⟩
  · simp only [List.mem_cons, List.mem_append] at hc
    rcases hc with rfl | hc | rfl | hc
    · decide
    · exact endsAuthority_host (hs c hc)
    · decide
    · exact endsAuthority_host (htc c hc)
  · have hopen : scanChar '[' {} = .ok { opened := true } := rfl
    have hclose : ∀ n, scanChar ']' { colons := n, opened := true } = .ok { opened := true, closed := true } := fun _ => rfl
    rw [scanFrom, hopen, Except.bind, scanFrom_append, scanFrom_host hs rfl (by simpa using hcount), Except.bind,
      scanFrom, hclose, Except.bind, scanFrom_host htc rfl (by simp only; omega)]
    simp

theorem checkAuthority_append (hs : IsAuthority s) (ht : ∀ c ∈ t.head?, endsAuthority c = true) :
    checkAuthority (s ++ t) = .ok t := by
  obtain ⟨-, hend, a, hscan, hbrackets, hcolons, hat, hpercent⟩ := hs
  have hfront : ∀ c ∈ s, (!endsAuthority c) = true := fun c hc => by rw [hend c hc]; rfl
  have hrest : ∀ c ∈ t.head?, (!endsAuthority c) = false := fun c hc => by rw [ht c hc]; rfl
  rw [checkAuthority, takeWhile_exact hfront hrest, dropWhile_exact hfront hrest, hscan]
  simp [bind, Except.bind, hbrackets, hat, hpercent, Nat.not_lt.mpr hcolons, pure, Except.pure]

/-! ## Path and query -/

theorem isQueryChar_of_isDigit {c : Char} (h : c.isDigit = true) : isQueryChar c = true := by
  have hc : '0' ≤ c ∧ c ≤ '9' := by simpa [Char.isDigit, Char.le_def] using h
  have hlo : 0x30 ≤ c.toNat := UInt32.le_iff_toNat_le.mp hc.1
  have hhi : c.toNat ≤ 0x39 := UInt32.le_iff_toNat_le.mp hc.2
  simp only [isQueryChar, Bool.or_eq_true, Bool.and_eq_true, decide_eq_true_eq, beq_iff_eq]
  omega

theorem parsePath_append {path query : List Char} (hp : ∀ c ∈ path, isPathChar c = true)
    (hq : ∀ c ∈ query, isQueryChar c = true) :
    parsePath (path ++ '?' :: query) = .ok ⟨String.ofList path, some (String.ofList query)⟩ := by
  have hmark : ∀ c ∈ path, decide (c ≠ '?') = true := fun c hc =>
    decide_eq_true (by rintro rfl; exact absurd (hp _ hc) (by decide))
  have hquestion : ∀ c ∈ ('?' :: query).head?, decide (c ≠ '?') = false := by rintro c ⟨⟩; rfl
  have hfragment : ∀ c ∈ path ++ '?' :: query, decide (c ≠ '#') = true := fun c hc => by
    refine decide_eq_true ?_
    rintro rfl
    rcases List.mem_append.mp hc with hc | hc
    · exact absurd (hp _ hc) (by decide)
    · rcases List.mem_cons.mp hc with hc | hc
      · exact absurd hc (by decide)
      · exact absurd (hq _ hc) (by decide)
  have hwhole : (path ++ '?' :: query).takeWhile (· ≠ '#') = path ++ '?' :: query := by
    have h : ((path ++ '?' :: query) ++ []).takeWhile (· ≠ '#') = _ := takeWhile_exact hfragment (by simp)
    rwa [List.append_nil] at h
  have hpath : path.all isPathChar = true := List.all_eq_true.mpr hp
  have hquery : query.all isQueryChar = true := List.all_eq_true.mpr hq
  simp only [parsePath, hwhole, takeWhile_exact hmark hquestion, dropWhile_exact hmark hquestion, hpath, hquery,
    if_true]

/-! ## Absolute URLs -/

/-- Bytes are at most four to a character. -/
theorem length_encode_le (s : List Char) : (Utf8.encode s).length ≤ 4 * s.length := by
  induction s with
  | nil => simp [Utf8.encode]
  | cons c s ih =>
    have hc : (String.utf8EncodeChar c).length ≤ 4 := by
      rw [String.length_utf8EncodeChar]; exact c.utf8Size_le_four
    simp only [Utf8.encode, List.flatMap_cons, List.length_append, List.length_cons] at ih ⊢
    omega

/-- The target of an absolute URL is what follows its authority. -/
theorem parse_absolute {scheme authority tail : List Char} {target : Target}
    (hscheme : scheme = "http".toList ∨ scheme = "https".toList) (ha : IsAuthority authority)
    (hroot : tail.head? = some '/') (htail : parsePath tail = .ok target)
    (hlen : 4 * (scheme ++ ':' :: '/' :: '/' :: (authority ++ tail)).length ≤ 65534) :
    parse (String.ofList (scheme ++ ':' :: '/' :: '/' :: (authority ++ tail))) = .ok target.rooted := by
  have hshort : ¬ 65534 < (Utf8.encode (scheme ++ ':' :: '/' :: '/' :: (authority ++ tail))).length :=
    Nat.not_lt.mpr (Nat.le_trans (length_encode_le _) hlen)
  have hafter : afterScheme? (scheme ++ ':' :: '/' :: '/' :: (authority ++ tail)) = .ok (some (authority ++ tail)) := by
    rcases hscheme with rfl | rfl <;> simp [afterScheme?, isSchemeChar]
  have hcheck : checkAuthority (authority ++ tail) = .ok tail :=
    checkAuthority_append ha (by rw [hroot]; rintro c ⟨⟩; decide)
  have hlonger : ¬ tail.length = (authority ++ tail).length := by
    have := List.length_pos_iff.mpr ha.1
    rw [List.length_append]; omega
  have habsolute : parseAbsolute (scheme ++ ':' :: '/' :: '/' :: (authority ++ tail)) = .ok target.rooted := by
    simp only [parseAbsolute, hafter, bind, Except.bind, hcheck, hlonger, if_false, htail]
    rfl
  simp only [parse, String.toList_ofList]
  rw [if_neg hshort]
  rcases hscheme with rfl | rfl <;> exact habsolute

end NumberRegistry.Http.Target
