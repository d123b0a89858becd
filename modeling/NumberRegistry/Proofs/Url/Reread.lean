/-
  NumberRegistry.Proofs.Url.Reread — a web URL is read back from its text.

  `Web` describes a URL of `http` or `https` as reading leaves it: its parts are encoded,
  its segments are no dot segments, its host is one that the reader of hosts gives, and
  its port is not the scheme's own (`web_of_parse`). The reader takes the text of such a
  URL apart where it was put together, stage by stage, and what it finds is changed
  nowhere; only the host is looked up once more (`Web.parse_text`). So the URL is read
  again if no label of its host is too long for that (`Web.parse_short`).
-/
import NumberRegistry.Proofs.Url.Host
import NumberRegistry.Proofs.Url.Segments
import NumberRegistry.Proofs.Url.Userinfo

namespace NumberRegistry.Url

open Text

/-! ## Hosts in a text -/

theorem alphanum_allowed {c : Char} (h : c.isAlphanum = true) : Domain.isForbidden c = false := by
  have all : ∀ n ∈ List.range 128, (Char.ofNat n).isAlphanum = true → Domain.isForbidden (Char.ofNat n) = false := by
    decide +kernel
  have hc := all c.toNat (List.mem_range.mpr (isAlphanum_ascii h))
  rw [Char.ofNat_toNat] at hc
  exact hc h

/-- A character of a host that ends neither host nor authority. -/
structure Inner (c : Char) : Prop where
  visible : 0x20 < c.toNat
  ends : endsAuthority true c = false
  login : c ≠ '@'

theorem allowed_inner {c : Char} (h : Domain.isForbidden c = false) : Inner c ∧ c ≠ ':' ∧ c ≠ '[' ∧ c ≠ ']' := by
  have hne {d : Char} (hd : Domain.isForbidden d = true) : c ≠ d := by
    rintro rfl
    rw [h] at hd
    cases hd
  have hvisible : 0x20 < c.toNat := by
    simp only [Domain.isForbidden, Bool.or_eq_false_iff, decide_eq_false_iff_not] at h
    omega
  have hends : endsAuthority true c = false := by
    simp only [endsAuthority, isSlash, Bool.true_and, Bool.or_eq_false_iff, beq_eq_false_iff_ne]
    exact ⟨⟨⟨hne (by decide), hne (by decide)⟩, hne (by decide)⟩, hne (by decide)⟩
  exact ⟨⟨hvisible, hends, hne (by decide)⟩, hne (by decide), hne (by decide), hne (by decide)⟩

theorem splitHost_plain {s : List Char} (h : ∀ c ∈ s, c ≠ ':' ∧ c ≠ '[' ∧ c ≠ ']') {rest : List Char}
    (hrest : ∀ c ∈ rest.head?, c = ':') : splitHost false (s ++ rest) = (s, rest) := by
  induction s with
  | nil =>
    cases rest with
    | nil => rfl
    | cons c rest =>
      obtain rfl := hrest c rfl
      rfl
  | cons c s ih =>
    obtain ⟨hcolon, hopen, hclose⟩ := h c List.mem_cons_self
    rw [List.cons_append, splitHost, if_neg (by simp [hcolon]), if_neg hopen, if_neg hclose,
      ih fun d hd => h d (List.mem_cons_of_mem c hd)]

theorem splitHost_inside {s : List Char} (h : ∀ c ∈ s, c ≠ '[' ∧ c ≠ ']') (rest : List Char) :
    splitHost true (s ++ ']' :: rest) = (s ++ ']' :: (splitHost false rest).1, (splitHost false rest).2) := by
  induction s with
  | nil => rfl
  | cons c s ih =>
    obtain ⟨hopen, hclose⟩ := h c List.mem_cons_self
    rw [List.cons_append, splitHost, if_neg (by simp), if_neg hopen, if_neg hclose, ih fun d hd => h d (List.mem_cons_of_mem c hd)]
    rfl

/-- What the reader of hosts gives is told apart from what stands behind it. -/
structure HostText (host : Host) : Prop where
  named : host ≠ .name ""
  ne : host.text.toList ≠ []
  inner : ∀ c ∈ host.text.toList, Inner c
  split : ∀ rest : List Char, (∀ c ∈ rest.head?, c = ':') →
    splitHost false (host.text.toList ++ rest) = (host.text.toList, rest)

theorem hostText_plain {host : Host} (hnamed : host ≠ .name "") (hne : host.text.toList ≠ [])
    (h : ∀ c ∈ host.text.toList, Domain.isForbidden c = false) : HostText host :=
  ⟨hnamed, hne, fun c hc => (allowed_inner (h c hc)).1, fun _ => splitHost_plain fun c hc => (allowed_inner (h c hc)).2⟩

theorem hostText_ipv6 (ip : Net.Ipv6) : HostText (.ipv6 ip) := by
  have htext : (Host.ipv6 ip).text.toList = '[' :: (ip.text.toList ++ [']']) := by
    simp [Host.text]
  have hchars : ∀ c ∈ ip.text.toList, Inner c ∧ c ≠ '[' ∧ c ≠ ']' := by
    intro c hc
    rcases Net.Ipv6.mem_text hc with rfl | hc
    · exact ⟨⟨by decide, by decide, by decide⟩, by decide, by decide⟩
    · obtain ⟨hinner, -, hbrackets⟩ := allowed_inner (alphanum_allowed hc)
      exact ⟨hinner, hbrackets⟩
  refine ⟨nofun, by simp [htext], ?_, fun rest hrest => ?_⟩ <;> rw [htext]
  · rw [List.forall_mem_cons, List.forall_mem_append, List.forall_mem_singleton]
    exact ⟨⟨by decide, by decide, by decide⟩, fun c hc => (hchars c hc).1, ⟨by decide, by decide, by decide⟩⟩
  · rw [List.cons_append, List.append_assoc, List.singleton_append, splitHost, if_neg (by decide), if_pos rfl,
      splitHost_inside fun c hc => (hchars c hc).2]
    have hend := splitHost_plain (s := []) (by simp) hrest
    rw [List.nil_append] at hend
    rw [hend]

theorem hostText_of_parse {s : List Char} {host : Host} (h : Host.parseDomain s = .ok host) : HostText host := by
  rcases Host.parseDomain_cases h with ⟨ip, rfl⟩ | ⟨ip, rfl⟩ | ⟨domain, rfl, hne, -, hdomain⟩
  · exact hostText_ipv6 ip
  · exact hostText_plain nofun (Net.Ipv4.text_ne_nil ip) fun c hc => Domain.plain_allowed (Host.plain_ipv4 ip c hc)
  · refine hostText_plain (fun heq => hne (Host.name.inj heq)) (fun hnil => hne ?_) fun c hc => Domain.toAscii?_allowed hdomain hc
    exact String.toList_eq_nil_iff.mp hnil

/-! ## Authorities -/

/-- An authority as reading leaves it. -/
structure Authority.Kept (scheme : String) (a : Authority) : Prop where
  username : Encoded inUserinfo a.username.toList
  password : ∀ p ∈ a.password, p ≠ "" ∧ Encoded inUserinfo p.toList
  host : ∃ s, Host.parseDomain s = .ok a.host
  port : ∀ p ∈ a.port, some p ≠ defaultPort? scheme

theorem parsePlace_kept {scheme : String} (hspecial : isSpecial scheme = true) {hasUser : Bool} {s t : List Char} {host : Host}
    {port : Option UInt16} {path : Path} (h : parsePlace scheme hasUser s t = .ok (host, port, path)) :
    (∃ s, Host.parseDomain s = .ok host) ∧ (∀ p ∈ port, some p ≠ defaultPort? scheme) ∧
      ∃ ts, path = .rooted ts ∧ ts ≠ [] ∧ ∀ t ∈ ts, Segment t := by
  obtain ⟨rest, hhost, -, hport, rfl⟩ := parsePlace_ok h
  rw [hspecial] at hhost
  rw [hspecial]
  refine ⟨?_, (optionalPort_ok hport).2, ?_⟩
  · unfold parseHost at hhost
    simp only [Bool.not_true, Bool.false_eq_true, if_false] at hhost
    split at hhost
    · cases hhost
    · exact ⟨_, hhost⟩
  · unfold authorityPath
    split
    · exact ⟨[""], rfl, List.cons_ne_nil _ _, List.forall_mem_singleton.mpr segment_nil⟩
    · obtain ⟨hsegments, hne⟩ := segments_sound _
      exact ⟨_, rfl, hne, hsegments⟩

theorem parseAuthority_kept {scheme : String} (hspecial : isSpecial scheme = true) {more : Bool} {s : List Char} {a : Authority}
    {path : Path} (h : parseAuthority scheme more s = .ok (a, path)) :
    a.Kept scheme ∧ ∃ ts, path = .rooted ts ∧ ts ≠ [] ∧ ∀ t ∈ ts, Segment t := by
  obtain ⟨⟨hasUser, rest, t, hplace⟩, huser⟩ := parseAuthority_ok h
  obtain ⟨hhost, hport, hpath⟩ := parsePlace_kept hspecial hplace
  refine ⟨⟨?_, ?_, hhost, hport⟩, hpath⟩
  · rcases huser with ⟨hname, -⟩ | ⟨user, huser⟩
    · rw [hname]
      nofun
    · obtain ⟨⟨name, hname⟩, -⟩ := parseUserinfo_ok huser
      rw [hname]
      exact encoded_encodeText .userinfo name
  · rcases huser with ⟨-, hnone⟩ | ⟨user, huser⟩
    · rw [hnone]
      nofun
    · intro p hp
      obtain ⟨secret, hne, rfl⟩ := (parseUserinfo_ok huser).2 p hp
      exact ⟨encodeText_ne_empty hne, encoded_encodeText .userinfo secret⟩

/-! ## Web URLs -/

/-- A URL of `http` or `https` as reading leaves it, its authority, and its segments. -/
structure Web (u : Url) (a : Authority) (ts : List String) : Prop where
  scheme : u.scheme = "http" ∨ u.scheme = "https"
  authority : u.authority = some a
  kept : a.Kept u.scheme
  path : u.path = .rooted ts
  rooted : ts ≠ []
  segments : ∀ t ∈ ts, Segment t
  query : ∀ q ∈ u.query, Encoded (inQuery true) q.toList
  fragment : ∀ f ∈ u.fragment, Encoded inFragment f.toList

/-- The host can be read from its text, which may be longer than what it was read from. -/
def ShortHost (u : Url) : Prop := ∀ a ∈ u.authority, a.host.Short

theorem web_special {scheme : String} (h : scheme = "http" ∨ scheme = "https") : isSpecial scheme = true ∧ scheme ≠ "file" := by
  rcases h with rfl | rfl <;> decide

theorem splitTail_encoded (special : Bool) (s : List Char) :
    (∀ q ∈ (splitTail special s).2.1, Encoded (inQuery special) q.toList) ∧
      ∀ f ∈ (splitTail special s).2.2, Encoded inFragment f.toList := by
  have hsome {reserved : Char → Bool} (h : Reserves reserved) (s : List Char) :
      ∀ t ∈ some (encodeText reserved s), Encoded reserved t.toList := by
    rintro t ⟨⟩
    exact encoded_encodeText h s
  unfold splitTail
  dsimp only
  split <;> dsimp only <;> split
  · exact ⟨hsome (.query special) _, hsome .fragment _⟩
  · exact ⟨hsome (.query special) _, nofun⟩
  · exact ⟨nofun, hsome .fragment _⟩
  · exact ⟨nofun, nofun⟩

theorem web_of_parse {text : String} {u : Url} (h : parse text = .ok u) (hscheme : u.scheme = "http" ∨ u.scheme = "https") :
    ∃ a ts, u.Web a ts := by
  obtain ⟨hspecial, hfile⟩ := web_special hscheme
  obtain ⟨rest, -, htail, ⟨hscheme', -⟩ | ⟨-, more, s, a, hauthority, ha⟩ | ⟨hother, -⟩⟩ := parse_ok h
  · exact absurd hscheme' hfile
  · obtain ⟨hquery, hfragment⟩ := splitTail_encoded (isSpecial u.scheme) rest
    rw [htail, hspecial] at hquery
    rw [htail] at hfragment
    obtain ⟨hkept, ts, hpath, hne, hsegments⟩ := parseAuthority_kept hspecial ha
    exact ⟨a, ts, hscheme, hauthority, hkept, hpath, hne, hsegments, hquery, hfragment⟩
  · rw [hspecial] at hother
    cases hother

/-! ## Read again -/

theorem not_break_of_not_margin {c : Char} (h : isMargin c = false) : isBreak c = false := by
  simp only [isBreak, Bool.or_eq_false_iff, beq_eq_false_iff_ne]
  refine ⟨⟨?_, ?_⟩, ?_⟩ <;> rintro rfl <;> exact absurd h (by decide)

theorem content_visible {s : List Char} (h : ∀ c ∈ s, 0x20 < c.toNat) : content s = s := by
  have hmargin : ∀ c ∈ s, isMargin c = false := fun c hc => decide_eq_false (Nat.not_le.mpr (h c hc))
  have hbreak : ∀ c ∈ s, (!isBreak c) = true := by
    intro c hc
    rw [not_break_of_not_margin (hmargin c hc)]
    rfl
  unfold content
  rw [dropWhile_of_head fun c hc => hmargin c (List.mem_of_mem_head? hc),
    dropWhile_of_head fun c hc => hmargin c (List.mem_reverse.mp (List.mem_of_mem_head? hc)), List.reverse_reverse,
    List.filter_eq_self.mpr hbreak]

theorem splitTail_text {special : Bool} {query : Option String} (hquery : ∀ q ∈ query, Encoded (inQuery special) q.toList)
    {fragment : Option String} (hfragment : ∀ f ∈ fragment, Encoded inFragment f.toList) :
    splitTail special ((query.elim "" ("?" ++ ·)).toList ++ (fragment.elim "" ("#" ++ ·)).toList) = ([], query, fragment) := by
  cases query with
  | none =>
    cases fragment with
    | none => rfl
    | some f =>
      have htext : ("".toList ++ ("#" ++ f).toList) = '#' :: f.toList := by simp
      show splitTail special ("".toList ++ ("#" ++ f).toList) = _
      rw [htext]
      show ([], none, some (encodeText inFragment f.toList)) = _
      rw [encodeText_encoded (hfragment f rfl)]
  | some q =>
    have hfree : ∀ c ∈ q.toList, decide (c ≠ '#') = true := by
      intro c hc
      rw [decide_eq_true_eq]
      rintro rfl
      exact absurd (hquery q rfl '#' hc) (by cases special <;> decide)
    have hrest : ∀ c ∈ (fragment.elim "" ("#" ++ ·)).toList.head?, decide (c ≠ '#') = false := by
      cases fragment with
      | none => nofun
      | some f =>
        intro c hc
        rw [Option.elim_some, String.toList_append] at hc
        cases hc
        decide
    generalize htail : (fragment.elim "" ("#" ++ ·)).toList = tail at hrest
    have htext : ("?" ++ q).toList ++ tail = '?' :: (q.toList ++ tail) := by simp
    show splitTail special (("?" ++ q).toList ++ tail) = _
    rw [htext]
    show ([], some (encodeText (inQuery special) ((q.toList ++ tail).takeWhile (· ≠ '#'))), _) = _
    rw [takeWhile_exact hfree hrest, encodeText_encoded (hquery q rfl), dropWhile_exact hfree hrest, ← htail]
    cases fragment with
    | none => rfl
    | some f =>
      have htext : ("#" ++ f).toList = '#' :: f.toList := by simp
      rw [Option.elim_some, htext]
      show ([], some q, some (encodeText inFragment f.toList)) = _
      rw [encodeText_encoded (hfragment f rfl)]

theorem login_inner {c : Char} (h : inUserinfo c = false) : Inner c ∧ c ≠ ':' := by
  have hne {d : Char} (hd : inUserinfo d = true) : c ≠ d := by
    rintro rfl
    rw [h] at hd
    cases hd
  have hends : endsAuthority true c = false := by
    simp only [endsAuthority, isSlash, Bool.true_and, Bool.or_eq_false_iff, beq_eq_false_iff_ne]
    exact ⟨⟨⟨hne (by decide), hne (by decide)⟩, hne (by decide)⟩, hne (by decide)⟩
  exact ⟨⟨(Reserves.userinfo.visible h).1, hends, hne (by decide)⟩, hne (by decide)⟩

section
variable {scheme : String} {a : Authority} {ts : List String}

/-- A port is read back from its decimal text. -/
theorem parsePort_text {default : Option UInt16} {p : UInt16} (h : some p ≠ default) :
    parsePort default (Decimal.ofNat p.toNat).toList = .ok (some p, []) := by
  have hdigits := Decimal.digits_ofNat p.toNat
  have hcut := List.takeWhile_eq_self_iff.mpr hdigits.2
  have hrest := List.dropWhile_eq_nil_iff.mpr hdigits.2
  obtain ⟨ds, hds⟩ := Net.map_digit?_iff.mpr hdigits.2
  have hspan := Net.spanDigits_eq_iff.mpr ⟨_, (List.append_nil _).symm, hds, nofun⟩
  have hvalue : ds.foldl (fun a d => a * 10 + d) 0 = p.toNat :=
    (Net.ofDigits_ten hds).trans (Decimal.ofDigitChars_ofNat p.toNat)
  have hlt : ¬ 65535 < p.toNat := Nat.not_lt.mpr (Nat.le_of_lt_succ p.toNat_lt)
  unfold parsePort
  simp only [hcut, hrest, hspan, hvalue]
  rw [if_neg hlt, if_neg nofun, UInt16.ofNat_toNat, if_neg (by rintro (hnil | hdefault); exacts [hdigits.1 hnil, h hdefault])]

theorem optionalPort_text (h : a.Kept scheme) : optionalPort (defaultPort? scheme) a.portText.toList = .ok (a.port, []) := by
  unfold Authority.portText
  cases hport : a.port with
  | none => rfl
  | some p =>
    have htext : (":" ++ Decimal.ofNat p.toNat).toList = ':' :: (Decimal.ofNat p.toNat).toList := by simp
    show optionalPort _ (":" ++ Decimal.ofNat p.toNat).toList = _
    rw [htext]
    exact parsePort_text (h.port p hport)

theorem portText_chars (a : Authority) : (∀ c ∈ a.portText.toList.head?, c = ':') ∧ ∀ c ∈ a.portText.toList, Inner c := by
  unfold Authority.portText
  cases a.port with
  | none => exact ⟨nofun, nofun⟩
  | some p =>
    have htext : (":" ++ Decimal.ofNat p.toNat).toList = ':' :: (Decimal.ofNat p.toNat).toList := by simp
    show (∀ c ∈ (":" ++ Decimal.ofNat p.toNat).toList.head?, c = ':') ∧ ∀ c ∈ (":" ++ Decimal.ofNat p.toNat).toList, Inner c
    rw [htext]
    refine ⟨fun c hc => (Option.some.inj hc).symm, List.forall_mem_cons.mpr ⟨⟨by decide, by decide, by decide⟩, fun c hc => ?_⟩⟩
    have halphanum : c.isAlphanum = true := by
      rw [Char.isAlphanum, Decimal.isDigit_of_mem_ofNat hc, Bool.or_true]
    exact (allowed_inner (alphanum_allowed halphanum)).1

/-- Only the host is looked up again. -/
theorem parsePlace_text (hspecial : isSpecial scheme = true) (h : a.Kept scheme) (hasUser : Bool) (hne : ts ≠ [])
    (hts : ∀ t ∈ ts, Segment t) :
    parsePlace scheme hasUser (a.host.text.toList ++ a.portText.toList) (Path.rooted ts).text.toList =
      (Host.parseDomain a.host.text.toList).map fun host => (host, a.port, .rooted ts) := by
  obtain ⟨s, hs⟩ := h.host
  have htext := hostText_of_parse hs
  have hhost : parseHost (isSpecial scheme) a.host.text.toList = Host.parseDomain a.host.text.toList := by
    rw [parseHost, hspecial, if_neg (by decide), if_neg htext.ne]
  unfold parsePlace
  rw [htext.split _ (portText_chars a).1]
  simp only [hhost]
  cases hagain : Host.parseDomain a.host.text.toList with
  | error e => rfl
  | ok host =>
    have hnamed : ¬ (host = .name "" ∧ (a.portText.toList ≠ [] ∨ hasUser = true)) :=
      fun h => (hostText_of_parse hagain).named h.1
    show (if _ then _ else _) = _
    rw [if_neg hnamed, optionalPort_text h, hspecial]
    show Except.ok (host, a.port, authorityPath true ((Path.rooted ts).text.toList)) = _
    rw [segments_text hts hne]
    rfl

theorem Authority.Kept.userinfo_inner (h : a.Kept scheme) :
    ∀ c ∈ a.userinfo.toList, 0x20 < c.toNat ∧ endsAuthority true c = false := by
  have hlogin {t : String} (ht : Encoded inUserinfo t.toList) : ∀ c ∈ t.toList, 0x20 < c.toNat ∧ endsAuthority true c = false :=
    fun c hc => ⟨(login_inner (ht c hc)).1.visible, (login_inner (ht c hc)).1.ends⟩
  have hmark : ∀ c ∈ [':', '@'], 0x20 < c.toNat ∧ endsAuthority true c = false := by simp [endsAuthority, isSlash]
  unfold Authority.userinfo
  split
  · rename_i p hp
    simp only [String.toList_append, List.forall_mem_append]
    exact ⟨⟨⟨hlogin h.username, fun c hc => hmark c (by simpa using Or.inl hc)⟩, hlogin (h.password p hp).2⟩,
      fun c hc => hmark c (by simpa using Or.inr hc)⟩
  · split
    · simp
    · simp only [String.toList_append, List.forall_mem_append]
      exact ⟨hlogin h.username, fun c hc => hmark c (by simpa using Or.inr hc)⟩

theorem Authority.Kept.place_inner (h : a.Kept scheme) : ∀ c ∈ a.host.text.toList ++ a.portText.toList, Inner c := by
  obtain ⟨s, hs⟩ := h.host
  exact List.forall_mem_append.mpr ⟨(hostText_of_parse hs).inner, (portText_chars a).2⟩

theorem Authority.toList_text (a : Authority) :
    a.text.toList = a.userinfo.toList ++ (a.host.text.toList ++ a.portText.toList) := by
  simp [Authority.text]

theorem Authority.Kept.text_inner (h : a.Kept scheme) : ∀ c ∈ a.text.toList, 0x20 < c.toNat ∧ endsAuthority true c = false := by
  rw [a.toList_text]
  exact List.forall_mem_append.mpr ⟨h.userinfo_inner, fun c hc => ⟨(h.place_inner c hc).visible, (h.place_inner c hc).ends⟩⟩

theorem not_slash_of_ends {special : Bool} {c : Char} (h : endsAuthority special c = false) :
    isSlash special c = false ∧ c ≠ '?' ∧ c ≠ '#' := by
  simpa [endsAuthority, and_assoc] using h

/-- The slashes before an authority end where it begins. -/
theorem dropWhile_slashes {front : List Char} (hne : front ≠ []) (hfront : ∀ c ∈ front, isSlash true c = false)
    (rest : List Char) : ('/' :: '/' :: (front ++ rest)).dropWhile (isSlash true) = front ++ rest := by
  have hslashes : ∀ c ∈ ['/', '/'], isSlash true c = true := by simp [isSlash]
  have hhead : ∀ c ∈ (front ++ rest).head?, isSlash true c = false := by
    intro c hc
    rw [List.head?_append, Option.or_of_isSome (List.isSome_head?.mpr hne)] at hc
    exact hfront c (List.mem_of_mem_head? hc)
  exact dropWhile_exact hslashes hhead

/-- An authority ends before the first slash. -/
theorem cut_slash {front rest : List Char} (hfront : ∀ c ∈ front, isSlash true c = false)
    (hrest : ∀ c ∈ rest.head?, isSlash true c = true) :
    (front ++ rest).takeWhile (fun c => !isSlash true c) = front ∧
      (front ++ rest).dropWhile (fun c => !isSlash true c) = rest := by
  have hkept : ∀ c ∈ front, (!isSlash true c) = true := by simpa using hfront
  have hstop : ∀ c ∈ rest.head?, (!isSlash true c) = false := by simpa using hrest
  exact ⟨takeWhile_exact hkept hstop, dropWhile_exact hkept hstop⟩

/-- A userinfo is none, or the login in front of its `@`. -/
theorem Authority.Kept.userinfo_cases (h : a.Kept scheme) :
    (a.userinfo = "" ∧ a.username = "" ∧ a.password = none) ∨
      ∃ user, user ≠ [] ∧ a.userinfo.toList = user ++ ['@'] ∧ parseUserinfo user = (a.username, a.password) := by
  have hname : ':' ∉ a.username.toList := fun hc => (login_inner (h.username _ hc)).2 rfl
  unfold Authority.userinfo
  cases hpassword : a.password with
  | none =>
    by_cases hempty : a.username = ""
    · exact Or.inl ⟨if_pos hempty, hempty, rfl⟩
    · refine Or.inr ⟨a.username.toList, fun hnil => hempty (String.toList_eq_nil_iff.mp hnil), ?_, ?_⟩
      · show (if a.username = "" then "" else a.username ++ "@").toList = _
        rw [if_neg hempty, String.toList_append]
        rfl
      · have hfront : ∀ c ∈ a.username.toList, decide (c ≠ ':') = true := fun c hc => decide_eq_true fun he => hname (he ▸ hc)
        unfold parseUserinfo
        simp only
        rw [List.takeWhile_eq_self_iff.mpr hfront, List.dropWhile_eq_nil_iff.mpr hfront, encodeText_encoded h.username]
        rfl
  | some p =>
    obtain ⟨hne, hencoded⟩ := h.password p hpassword
    refine Or.inr ⟨a.username.toList ++ ':' :: p.toList, by simp, by simp, ?_⟩
    rw [parseUserinfo_append hname fun hnil => hne (String.toList_eq_nil_iff.mp hnil), encodeText_encoded h.username,
      encodeText_encoded hencoded]

/-- An authority is read back from its text, but for its host, which is looked up again. -/
theorem parseAuthority_text (hspecial : isSpecial scheme = true) (h : a.Kept scheme) (more : Bool) (hne : ts ≠ [])
    (hts : ∀ t ∈ ts, Segment t) :
    parseAuthority scheme more (a.text.toList ++ (Path.rooted ts).text.toList) =
      (Host.parseDomain a.host.text.toList).map fun host => ({ a with host }, .rooted ts) := by
  have hslash : ∀ c ∈ a.text.toList, isSlash true c = false := fun c hc => (not_slash_of_ends (h.text_inner c hc).2).1
  have hpath : ∀ c ∈ (Path.rooted ts).text.toList.head?, isSlash true c = true := by
    cases ts with
    | nil => exact absurd rfl hne
    | cons t ts =>
      rw [toList_rooted_cons]
      rintro c ⟨⟩
      decide
  have hlogin : '@' ∉ a.host.text.toList ++ a.portText.toList := fun hc => (h.place_inner _ hc).login rfl
  have hplace (hasUser : Bool) := parsePlace_text hspecial h hasUser hne hts
  unfold parseAuthority
  simp only [hspecial]
  rw [(cut_slash hslash hpath).1, (cut_slash hslash hpath).2, a.toList_text]
  rcases h.userinfo_cases with ⟨huserinfo, husername, hpassword⟩ | ⟨user, huser, huserinfo, hread⟩
  · have hnone : splitAt? (a.host.text.toList ++ a.portText.toList) = none := by
      rw [splitAt?, if_neg (by simpa using hlogin)]
    have hempty : ("" : String).toList = [] := rfl
    rw [huserinfo, hempty, List.nil_append, hnone]
    simp only [pure_bind]
    rw [hplace]
    cases Host.parseDomain a.host.text.toList with
    | error e => rfl
    | ok host =>
      obtain ⟨username, password, _, port⟩ := a
      subst husername hpassword
      rfl
  · rw [huserinfo, List.append_assoc, List.singleton_append, splitAt?_append hlogin]
    cases user with
    | nil => exact absurd rfl huser
    | cons c user =>
      simp only [pure_bind, hread]
      rw [hplace]
      cases Host.parseDomain a.host.text.toList <;> rfl

end

theorem path_visible {ts : List String} (h : ∀ t ∈ ts, Segment t) :
    ∀ c ∈ (Path.rooted ts).text.toList, 0x20 < c.toNat ∧ c ≠ '?' ∧ c ≠ '#' := by
  intro c hc
  simp only [Path.text, String.toList_join, List.mem_flatMap, List.mem_map] at hc
  obtain ⟨_, ⟨t, ht, rfl⟩, hc⟩ := hc
  rw [String.toList_append] at hc
  rcases List.mem_append.mp hc with hc | hc
  · obtain rfl := List.mem_singleton.mp hc
    decide
  · have hfree := (h t ht).encoded c hc
    refine ⟨(Reserves.path.visible hfree).1, ?_, ?_⟩ <;> rintro rfl <;> exact absurd hfree (by decide)

namespace Web

variable {u : Url} {a : Authority} {ts : List String}

theorem toList_text (h : u.Web a ts) :
    u.text.toList = u.scheme.toList ++ ':' :: (('/' :: '/' :: (a.text.toList ++ (Path.rooted ts).text.toList)) ++
      (u.queryText.toList ++ u.fragmentText.toList)) := by
  simp [Url.text, authorityText, h.authority, h.path]

theorem tail_visible (h : u.Web a ts) : ∀ c ∈ u.queryText.toList ++ u.fragmentText.toList, 0x20 < c.toNat := by
  have hpart {mark : String} (hmark : ∀ c ∈ mark.toList, 0x20 < c.toNat) {reserved : Char → Bool} (hreserved : Reserves reserved)
      {part : Option String} (hpart : ∀ t ∈ part, Encoded reserved t.toList) :
      ∀ c ∈ (part.elim "" (mark ++ ·)).toList, 0x20 < c.toNat := by
    cases part with
    | none => nofun
    | some t =>
      rw [Option.elim_some, String.toList_append]
      exact List.forall_mem_append.mpr ⟨hmark, fun c hc => (hreserved.visible (hpart t rfl c hc)).1⟩
  exact List.forall_mem_append.mpr ⟨hpart (by simp) (.query true) h.query, hpart (by simp) .fragment h.fragment⟩

theorem body_free (h : u.Web a ts) :
    ∀ c ∈ '/' :: '/' :: (a.text.toList ++ (Path.rooted ts).text.toList), 0x20 < c.toNat ∧ c ≠ '?' ∧ c ≠ '#' := by
  refine List.forall_mem_cons.mpr ⟨by decide, List.forall_mem_cons.mpr ⟨by decide, List.forall_mem_append.mpr ⟨fun c hc => ?_, ?_⟩⟩⟩
  · obtain ⟨hvisible, hends⟩ := h.kept.text_inner c hc
    exact ⟨hvisible, (not_slash_of_ends hends).2⟩
  · exact path_visible h.segments

theorem content_text (h : u.Web a ts) : content u.text.toList = u.text.toList := by
  have hscheme : ∀ c ∈ u.scheme.toList, 0x20 < c.toNat := by
    rcases h.scheme with hs | hs <;> simp [hs]
  refine content_visible ?_
  rw [h.toList_text, List.forall_mem_append, List.forall_mem_cons, List.forall_mem_append]
  exact ⟨hscheme, by decide, fun c hc => (h.body_free c hc).1, h.tail_visible⟩

theorem splitScheme?_text (h : u.Web a ts) (rest : List Char) : splitScheme? (u.scheme.toList ++ ':' :: rest) = some (u.scheme, rest) := by
  have hscheme : u.scheme.toList.head?.any Char.isAlpha ∧ u.scheme.toList.all isSchemeChar ∧
      u.scheme.toList.map Char.toLower = u.scheme.toList := by
    rcases h.scheme with hs | hs <;> rw [hs] <;> decide
  obtain ⟨hhead, hall, hsmall⟩ := hscheme
  rw [splitScheme?_append hhead (List.all_eq_true.mp hall) hsmall, String.ofList_toList]

/-- A web URL is read back from its text, but for its host, which is looked up again. -/
theorem parse_text (h : u.Web a ts) :
    parse u.text = (Host.parseDomain a.host.text.toList).map fun host => { u with authority := some { a with host } } := by
  obtain ⟨hspecial, hfile⟩ := web_special h.scheme
  have htail : splitTail true (u.queryText.toList ++ u.fragmentText.toList) = ([], u.query, u.fragment) :=
    splitTail_text h.query h.fragment
  have hslashes : ('/' :: '/' :: (a.text.toList ++ (Path.rooted ts).text.toList)).dropWhile (isSlash true) =
      a.text.toList ++ (Path.rooted ts).text.toList := by
    obtain ⟨s, hs⟩ := h.kept.host
    have hne : a.text.toList ≠ [] := by
      rw [a.toList_text]
      simp [(hostText_of_parse hs).ne]
    exact dropWhile_slashes hne (fun c hc => (not_slash_of_ends (h.kept.text_inner c hc).2).1) _
  unfold parse
  rw [h.content_text, h.toList_text, h.splitScheme?_text]
  simp only [hspecial, if_neg hfile, if_true]
  rw [splitTail_append fun c hc => (h.body_free c hc).2, htail, List.append_nil, hslashes,
    parseAuthority_text hspecial h.kept _ h.rooted h.segments]
  have hpath := h.path
  obtain ⟨scheme, authority, path, query, fragment⟩ := u
  cases Host.parseDomain a.host.text.toList with
  | error e => rfl
  | ok host =>
    subst hpath
    rfl

theorem parse_short (h : u.Web a ts) (hshort : a.host.Short) : parse u.text = .ok u := by
  obtain ⟨s, hs⟩ := h.kept.host
  rw [h.parse_text, Host.parseDomain_text hs hshort]
  show Except.ok { u with authority := some a } = Except.ok u
  rw [← h.authority]

theorem parse_long (h : u.Web a ts) (hlong : ¬ a.host.Short) : parse u.text = .error .domainName := by
  obtain ⟨s, hs⟩ := h.kept.host
  rw [h.parse_text, Host.parseDomain_long hs hlong]
  rfl

theorem shortHost_iff (h : u.Web a ts) : u.ShortHost ↔ a.host.Short := by
  unfold ShortHost
  rw [h.authority]
  simp

end Web

end NumberRegistry.Url
