/-
  NumberRegistry.Proofs.Url.Written — where the query of a URL's text begins.

  The reader takes what stands before the first question mark for scheme, authority and
  path. Written out they have no question mark again: segments and userinfo are encoded, a
  host with one is refused, and the rest is made of letters and digits (`parse_clear`). So
  the first question mark of the text is the one in front of the query, and who reads the
  text finds the query there (`Clear.queryIn_text`), whatever stands around the text in its
  line. Masking a password leaves it there (`Clear.withPassword`).
-/
import NumberRegistry.Proofs.Http.Form
import NumberRegistry.Proofs.Net.Address
import NumberRegistry.Proofs.Url.Host
import NumberRegistry.Proofs.Url.Userinfo

namespace NumberRegistry.Url

open Text

/-! ## Encoded texts -/

theorem mem_encodeText {reserved : Char → Bool} {s : List Char} {c : Char}
    (h : c ∈ (encodeText reserved s).toList) :
    c = '%' ∨ Http.Form.isPlain c = true ∨ c ∈ s ∧ reserved c = false := by
  rw [encodeText, String.toList_ofList] at h
  obtain ⟨d, hd, hc⟩ := List.mem_flatMap.mp h
  unfold Percent.encodeChar at hc
  split at hc
  · obtain ⟨b, -, hc⟩ := List.mem_flatMap.mp hc
    rcases Http.Form.mem_encodeByte hc with hc | hc
    · exact Or.inl hc
    · exact Or.inr (Or.inl hc)
  · rename_i hplain
    obtain rfl := List.mem_singleton.mp hc
    exact Or.inr (Or.inr ⟨hd, by simpa using hplain⟩)

/-- No question mark is left where they are encoded, or where there was none. -/
theorem clear_encodeText {reserved : Char → Bool} {s : List Char} (h : reserved '?' = true ∨ '?' ∉ s) :
    '?' ∉ (encodeText reserved s).toList := by
  intro hmem
  rcases mem_encodeText hmem with hc | hc | ⟨hc, hfree⟩
  · cases hc
  · exact absurd hc (by decide)
  · rcases h with h | h
    · rw [h] at hfree
      cases hfree
    · exact h hc

/-! ## Scheme -/

theorem toLower_ne_mark {c : Char} (h : isSchemeChar c = true) : c.toLower ≠ '?' := by
  intro hlower
  unfold Char.toLower at hlower
  split at hlower
  · rename_i hupper
    have hlo : 65 ≤ c.toNat := UInt32.le_iff_toNat_le.mp hupper.1
    have hhi : c.toNat ≤ 90 := UInt32.le_iff_toNat_le.mp hupper.2
    have hsmall : (c.toNat + 32) % 4294967296 = 63 := congrArg Char.toNat hlower
    omega
  · subst hlower
    exact absurd h (by decide)

theorem splitScheme?_clear {s rest : List Char} {scheme : String} (h : splitScheme? s = some (scheme, rest)) :
    '?' ∉ scheme.toList := by
  unfold splitScheme? at h
  split at h
  · cases h
  · split at h
    · split at h
      · cases h
        intro hmem
        rw [String.toList_ofList] at hmem
        obtain ⟨c, hc, hmark⟩ := List.mem_map.mp hmem
        exact toLower_ne_mark (List.all_eq_true.mp List.all_takeWhile c hc) hmark
      · cases h
    · cases h

/-! ## Path -/

/-- Segments without a question mark. -/
def ClearSegments (ts : List String) : Prop := ∀ t ∈ ts, '?' ∉ t.toList

namespace ClearSegments

variable {ts us : List String}

theorem nil : ClearSegments [] := nofun

theorem snoc {t : String} (h : ClearSegments ts) (ht : '?' ∉ t.toList) : ClearSegments (ts ++ [t]) := by
  intro u hu
  rcases List.mem_append.mp hu with hu | hu
  · exact h u hu
  · rw [List.mem_singleton.mp hu]
    exact ht

theorem of_sublist (h : ClearSegments ts) (hus : us.Sublist ts) : ClearSegments us :=
  fun u hu => h u (hus.mem hu)

theorem dropLast (h : ClearSegments ts) : ClearSegments ts.dropLast := h.of_sublist (List.dropLast_sublist ts)

theorem resolveDots {ss : List (List Char)} (h : ClearSegments ts) : ClearSegments (Url.resolveDots ts ss) := by
  fun_induction Url.resolveDots ts ss with
  | case1 done => exact h
  | case2 done s hs => exact h.dropLast.snoc nofun
  | case3 done s rest hs hrest ih => exact ih h.dropLast
  | case4 done s hs hdot => exact h.snoc nofun
  | case5 done s rest hs hdot hrest ih => exact ih h
  | case6 done s rest hs hdot ih => exact ih (h.snoc (clear_encodeText (Or.inl (by decide))))

theorem dropEmptyHead (h : ClearSegments ts) : ClearSegments (Url.dropEmptyHead ts) := by
  fun_induction Url.dropEmptyHead ts with
  | case1 s rest ih => exact ih (h.of_sublist (List.sublist_cons_self _ _))
  | case2 ts _ => exact h

end ClearSegments

theorem clear_segments (special : Bool) (s : List Char) : ClearSegments (segments special s) :=
  ClearSegments.nil.resolveDots

/-- A drive letter is written as it is, in front of a colon. -/
theorem clear_drive {s : List Char} (h : isDriveLetter s = true) : '?' ∉ (String.ofList (s.take 1 ++ [':'])).toList := by
  unfold isDriveLetter at h
  split at h
  · rename_i c d
    rw [String.toList_ofList]
    intro hmem
    simp at hmem
    subst hmem
    exact absurd h (by simp)
  · cases h

theorem ClearSegments.resolveFileDots {ts : List String} {ss : List (List Char)} (h : ClearSegments ts) :
    ClearSegments (Url.resolveFileDots ts ss) := by
  have hshorter {done : List String} (hdone : ClearSegments done) : ClearSegments
      (if done.length = 1 ∧ done.any (isDriveLetter ·.toList) then done else done.dropLast) := by
    split
    · exact hdone
    · exact hdone.dropLast
  fun_induction Url.resolveFileDots ts ss with
  | case1 done => exact h
  | case2 done s shorter hs => exact (hshorter h).snoc nofun
  | case3 done s rest shorter hs hrest ih => exact ih (hshorter h)
  | case4 done s hs hdot => exact h.snoc nofun
  | case5 done s rest hs hdot hrest ih => exact ih h
  | case6 done s rest hs hdot text ih =>
    refine ih (h.snoc ?_)
    by_cases hdrive : done = [] ∧ isDriveLetter s = true
    · rw [show text = _ from if_pos hdrive]
      exact clear_drive hdrive.2
    · rw [show text = _ from if_neg hdrive]
      exact clear_encodeText (Or.inl (by decide))

theorem clear_rooted {ts : List String} (h : ClearSegments ts) : '?' ∉ (Path.rooted ts).text.toList := by
  intro hmem
  simp only [Path.text, String.toList_join, List.mem_flatMap, List.mem_map] at hmem
  obtain ⟨_, ⟨t, ht, rfl⟩, hc⟩ := hmem
  rw [String.toList_append] at hc
  rcases List.mem_append.mp hc with hc | hc
  · exact absurd hc (by decide)
  · exact h t ht hc

theorem clear_authorityPath (special : Bool) (s : List Char) : '?' ∉ (authorityPath special s).text.toList := by
  unfold authorityPath
  split
  · cases special <;> decide
  · exact clear_rooted (clear_segments special _)

theorem clear_filePath (s : List Char) : '?' ∉ (filePath s).text.toList := by
  unfold filePath
  exact clear_rooted ClearSegments.nil.resolveFileDots.dropEmptyHead

/-! ## Host -/

theorem clear_ipv4 (ip : Net.Ipv4) : '?' ∉ (Host.ipv4 ip).text.toList := by
  intro hmem
  rcases Net.Ipv4.mem_text hmem with hc | hc
  · cases hc
  · cases hc

theorem clear_ipv6 (ip : Net.Ipv6) : '?' ∉ (Host.ipv6 ip).text.toList := by
  intro hmem
  simp only [Host.text, String.toList_append, List.mem_append] at hmem
  rcases hmem with (hc | hc) | hc
  · exact absurd hc (by decide)
  · rcases Net.Ipv6.mem_text hc with hc | hc <;> cases hc
  · exact absurd hc (by decide)

theorem bracketed_clear {s : List Char} {host : Host} (h : Host.bracketed s = .ok host) : '?' ∉ host.text.toList := by
  obtain ⟨ip, rfl⟩ := Host.bracketed_text h
  exact clear_ipv6 ip

theorem parsePlain_clear {s : List Char} {host : Host} (h : Host.parsePlain s = .ok host) : '?' ∉ host.text.toList := by
  unfold Host.parsePlain at h
  split at h
  · exact bracketed_clear h
  · split at h
    · cases h
    · rename_i hplain
      cases h
      refine clear_encodeText (Or.inr fun hmem => hplain ?_)
      exact List.any_eq_true.mpr ⟨_, hmem, by decide⟩

theorem parseDomain_clear {s : List Char} {host : Host} (h : Host.parseDomain s = .ok host) : '?' ∉ host.text.toList := by
  rcases Host.parseDomain_cases h with ⟨ip, rfl⟩ | ⟨ip, rfl⟩ | ⟨domain, rfl, -, -, hdomain⟩
  · exact clear_ipv6 ip
  · exact clear_ipv4 ip
  · exact fun hmem => absurd (Domain.toAscii?_allowed hdomain hmem) (by decide)

theorem parseHost_clear {special : Bool} {s : List Char} {host : Host} (h : parseHost special s = .ok host) :
    '?' ∉ host.text.toList := by
  unfold parseHost at h
  split at h
  · exact parsePlain_clear h
  · split at h
    · cases h
    · exact parseDomain_clear h

/-! ## Authority -/

/-- An authority of which no part has a question mark. -/
structure Authority.Clear (a : Authority) : Prop where
  username : '?' ∉ a.username.toList
  password : ∀ p ∈ a.password, '?' ∉ p.toList
  host : '?' ∉ a.host.text.toList

theorem Authority.Clear.text {a : Authority} (h : a.Clear) : '?' ∉ a.text.toList := by
  have huserinfo : '?' ∉ a.userinfo.toList := by
    unfold Authority.userinfo
    split
    · rename_i p hp
      simp only [String.toList_append, List.mem_append, not_or]
      exact ⟨⟨⟨h.username, by decide⟩, h.password p hp⟩, by decide⟩
    · split
      · nofun
      · simp only [String.toList_append, List.mem_append, not_or]
        exact ⟨h.username, by decide⟩
  have hport : '?' ∉ a.portText.toList := by
    unfold Authority.portText
    split
    · simp only [String.toList_append, List.mem_append, not_or]
      exact ⟨by decide, fun hmem => absurd (Decimal.isDigit_of_mem_ofNat hmem) (by decide)⟩
    · nofun
  simp only [Authority.text, String.toList_append, List.mem_append, not_or]
  exact ⟨⟨huserinfo, h.host⟩, hport⟩

/-- A host without anything else. -/
theorem Authority.Clear.of_host {host : Host} (h : '?' ∉ host.text.toList) : (⟨"", none, host, none⟩ : Authority).Clear :=
  ⟨nofun, nofun, h⟩

theorem parsePlace_clear {scheme : String} {hasUser : Bool} {s t : List Char} {host : Host} {port : Option UInt16}
    {path : Path} (h : parsePlace scheme hasUser s t = .ok (host, port, path)) :
    '?' ∉ host.text.toList ∧ '?' ∉ path.text.toList := by
  obtain ⟨rest, hhost, -, -, rfl⟩ := parsePlace_ok h
  exact ⟨parseHost_clear hhost, clear_authorityPath _ _⟩

theorem parseAuthority_clear {scheme : String} {more : Bool} {s : List Char} {a : Authority} {path : Path}
    (h : parseAuthority scheme more s = .ok (a, path)) : a.Clear ∧ '?' ∉ path.text.toList := by
  have hencoded (s : List Char) : '?' ∉ (encodeText inUserinfo s).toList := clear_encodeText (Or.inl (by decide))
  obtain ⟨⟨hasUser, rest, t, hplace⟩, huser⟩ := parseAuthority_ok h
  obtain ⟨hhost, hpath⟩ := parsePlace_clear hplace
  refine ⟨⟨?_, ?_, hhost⟩, hpath⟩
  · rcases huser with ⟨hname, -⟩ | ⟨user, huser⟩
    · rw [hname]
      nofun
    · obtain ⟨⟨name, hname⟩, -⟩ := parseUserinfo_ok huser
      rw [hname]
      exact hencoded name
  · rcases huser with ⟨-, hnone⟩ | ⟨user, huser⟩
    · rw [hnone]
      nofun
    · intro p hp
      obtain ⟨secret, -, rfl⟩ := (parseUserinfo_ok huser).2 p hp
      exact hencoded secret

theorem parseFile_clear {s : List Char} {a : Authority} {path : Path} (h : parseFile s = .ok (a, path)) :
    a.Clear ∧ '?' ∉ path.text.toList := by
  have hnone : (⟨"", none, .name "", none⟩ : Authority).Clear := .of_host nofun
  unfold parseFile at h
  dsimp only at h
  split at h
  · split at h
    · split at h
      · cases h
        exact ⟨hnone, clear_filePath _⟩
      · split at h
        · cases h
          exact ⟨hnone, clear_filePath _⟩
        · obtain ⟨host, hhost, h⟩ := bind_eq_ok h
          split at h
          · cases h
            exact ⟨hnone, clear_filePath _⟩
          · cases h
            exact ⟨.of_host (parseDomain_clear hhost), clear_filePath _⟩
    · cases h
      exact ⟨hnone, clear_filePath _⟩
  · cases h
    exact ⟨hnone, clear_filePath _⟩

theorem parseOrdinary_clear {scheme : String} {more : Bool} {s : List Char} {authority : Option Authority} {path : Path}
    (hs : '?' ∉ s) (h : parseOrdinary scheme more s = .ok (authority, path)) :
    (∀ a ∈ authority, a.Clear) ∧ '?' ∉ path.text.toList := by
  unfold parseOrdinary at h
  split at h
  · obtain ⟨⟨a, path⟩, ha, h⟩ := bind_eq_ok h
    cases h
    obtain ⟨hauthority, hpath⟩ := parseAuthority_clear ha
    exact ⟨fun _ h => Option.some.inj h ▸ hauthority, hpath⟩
  · cases h
    exact ⟨nofun, clear_rooted (clear_segments false _)⟩
  · cases h
    exact ⟨nofun, clear_encodeText (Or.inr hs)⟩

/-! ## URLs -/

/-- A URL of which no part has a question mark but the query and the fragment. The query
    ends where the fragment begins, or the line does. -/
structure Clear (u : Url) : Prop where
  scheme : '?' ∉ u.scheme.toList
  authority : ∀ a ∈ u.authority, a.Clear
  path : '?' ∉ u.path.text.toList
  query : ∀ q ∈ u.query, ∀ c ∈ q.toList, c ≠ '#' ∧ c ≠ '\n'

theorem splitTail_query {special : Bool} {s : List Char} {q : String} (h : (splitTail special s).2.1 = some q) :
    ∀ c ∈ q.toList, c ≠ '#' ∧ c ≠ '\n' := by
  unfold splitTail at h
  dsimp only at h
  split at h
  · cases h
    have hfree {d : Char} (hplain : d ≠ '%' ∧ Http.Form.isPlain d = false) (hd : inQuery special d = true) :
        ∀ {t : List Char}, d ∉ (encodeText (inQuery special) t).toList := by
      intro t hmem
      rcases mem_encodeText hmem with hc | hc | ⟨-, hc⟩
      · exact hplain.1 hc
      · rw [hplain.2] at hc
        cases hc
      · rw [hd] at hc
        cases hc
    intro c hc
    constructor
    · rintro rfl
      exact hfree (by decide) (by cases special <;> decide) hc
    · rintro rfl
      exact hfree (by decide) (by cases special <;> decide) hc
  · cases h

theorem splitTail_clear (special : Bool) (s : List Char) : '?' ∉ (splitTail special s).1 := by
  rw [splitTail_fst]
  intro hmem
  have hbefore := List.all_eq_true.mp List.all_takeWhile _ hmem
  simp at hbefore

theorem parse_clear {text : String} {u : Url} (h : parse text = .ok u) : u.Clear := by
  have hsome {a : Authority} (hauthority : u.authority = some a) (ha : a.Clear) : ∀ b ∈ u.authority, b.Clear := by
    rw [hauthority]
    exact fun _ hb => Option.some.inj hb ▸ ha
  obtain ⟨rest, hsplit, htail, hread⟩ := parse_ok h
  have hscheme := splitScheme?_clear hsplit
  have hquery : ∀ q ∈ u.query, ∀ c ∈ q.toList, c ≠ '#' ∧ c ≠ '\n' := fun q hq =>
    @splitTail_query (isSpecial u.scheme) rest q (by rw [htail]; exact hq)
  rcases hread with ⟨-, s, a, hauthority, ha⟩ | ⟨-, more, s, a, hauthority, ha⟩ | ⟨-, more, ha⟩
  · exact ⟨hscheme, hsome hauthority (parseFile_clear ha).1, (parseFile_clear ha).2, hquery⟩
  · exact ⟨hscheme, hsome hauthority (parseAuthority_clear ha).1, (parseAuthority_clear ha).2, hquery⟩
  · have hbody := splitTail_clear (isSpecial u.scheme) rest
    exact ⟨hscheme, (parseOrdinary_clear hbody ha).1, (parseOrdinary_clear hbody ha).2, hquery⟩

/-- What a reader finds as the query of a text in some line: what follows the first question
    mark. -/
def queryIn (s : List Char) : List Char :=
  ((s.dropWhile (· ≠ '?')).drop 1).takeWhile fun c => c ≠ '#' ∧ c ≠ '\n'

namespace Clear

variable {u : Url}

theorem withPassword (h : u.Clear) (password : String) : (u.withPassword password).Clear := by
  unfold Url.withPassword
  split
  · rename_i a ha
    have hclear := h.authority a ha
    split
    · exact h
    · refine ⟨h.scheme, ?_, h.path, h.query⟩
      rintro b ⟨⟩
      refine ⟨hclear.username, ?_, hclear.host⟩
      rintro p ⟨⟩
      exact clear_encodeText (Or.inl (by decide))
  · exact h

theorem authorityText (h : u.Clear) : '?' ∉ u.authorityText.toList := by
  unfold Url.authorityText
  split
  · rename_i path a ha
    simp only [String.toList_append, List.mem_append, not_or]
    exact ⟨by decide, (h.authority a ha).text⟩
  · decide
  · nofun

/-- The query can be read off the text. -/
theorem queryIn_text (h : u.Clear) {q : String} (hq : u.query = some q) {front back : List Char} (hfront : '?' ∉ front)
    (hback : ∀ c ∈ back.head?, c = '\n') : queryIn (front ++ u.text.toList ++ back) = q.toList := by
  have htext : front ++ u.text.toList ++ back =
      (front ++ (u.scheme ++ ":" ++ u.authorityText ++ u.path.text).toList) ++
        '?' :: (q.toList ++ (u.fragmentText.toList ++ back)) := by
    simp [Url.text, Url.queryText, hq]
  have hbefore : ∀ c ∈ front ++ (u.scheme ++ ":" ++ u.authorityText ++ u.path.text).toList, decide (c ≠ '?') = true := by
    intro c hc
    rw [decide_eq_true_eq]
    rintro rfl
    simp only [String.toList_append, List.mem_append] at hc
    rcases hc with hc | ((hc | hc) | hc) | hc
    · exact hfront hc
    · exact h.scheme hc
    · exact absurd hc (by decide)
    · exact h.authorityText hc
    · exact h.path hc
  have hrest : ∀ c ∈ (u.fragmentText.toList ++ back).head?, decide (c ≠ '#' ∧ c ≠ '\n') = false := by
    intro c hc
    unfold fragmentText at hc
    cases hfragment : u.fragment with
    | none =>
      rw [hfragment] at hc
      rw [hback c hc]
      decide
    | some f =>
      rw [hfragment, Option.elim_some, String.toList_append, List.append_assoc] at hc
      cases hc
      decide
  unfold queryIn
  rw [htext, dropWhile_exact hbefore (by rintro c ⟨⟩; decide), List.drop_succ_cons, List.drop_zero]
  exact takeWhile_exact (fun c hc => decide_eq_true (h.query q hq c hc)) hrest

end Clear

end NumberRegistry.Url
