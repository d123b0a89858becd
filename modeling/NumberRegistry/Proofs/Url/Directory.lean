/-
  NumberRegistry.Proofs.Url.Directory — what stands below a URL.

  A path is made a directory by a slash at its end (`text_asDirectory`). It is what is
  read from its text then, and a name that is resolved against it is added to it
  (`resolve_name`).

  Whether the slash is in the text of a URL already makes no difference
  (`Slashed.parse_eq`). It is the last character of the text up to query and fragment, so
  scheme and authority are read as they would be without it (`parseAuthority_front`), and
  it ends the last segment, which is not empty, or does nothing behind one that is dots
  (`resolveDots_snoc`).
-/
import NumberRegistry.Proofs.Url.Reread

namespace NumberRegistry.Url

open Text

/-! ## Directories -/

theorem text_snoc (ts : List String) (t : String) : (Path.rooted (ts ++ [t])).text = (Path.rooted ts).text ++ "/" ++ t := by
  apply String.toList_inj.mp
  simp [Path.text, String.toList_join]

/-- A path ends in a slash if its last segment is empty. -/
theorem getLast?_text {ts : List String} {t : String} (ht : Segment t) :
    (Path.rooted (ts ++ [t])).text.toList.getLast? = some '/' ↔ t = "" := by
  rw [text_snoc, String.toList_append, String.toList_append]
  constructor
  · intro h
    by_cases hne : t.toList = []
    · exact String.toList_eq_nil_iff.mp hne
    · rw [List.getLast?_append_of_ne_nil _ hne] at h
      exact absurd (ht.slash '/' (List.mem_of_getLast? h)) (by decide)
  · rintro rfl
    simp

theorem asDirectory_snoc (us : List String) (t : String) :
    (Path.rooted (us ++ [t])).asDirectory = .rooted (if t = "" then us ++ [""] else us ++ [t] ++ [""]) := by
  unfold Path.asDirectory
  simp only [List.getLast?_concat, Option.some.injEq]
  by_cases ht : t = ""
  · rw [if_pos ht, if_pos ht, ht]
  · rw [if_neg ht, if_neg ht]

theorem asDirectory_asDirectory (ts : List String) : (Path.rooted ts).asDirectory.asDirectory = (Path.rooted ts).asDirectory := by
  have hdirectory (us : List String) : (Path.rooted (us ++ [""])).asDirectory = .rooted (us ++ [""]) := asDirectory_snoc us ""
  rcases List.eq_nil_or_concat ts with rfl | ⟨us, t, rfl⟩
  · rfl
  · rw [List.concat_eq_append, asDirectory_snoc]
    split <;> exact hdirectory _

/-- The path of a directory ends in an empty segment. -/
theorem asDirectory_segments {ts : List String} (hts : ∀ t ∈ ts, Segment t) :
    ∃ us, (Path.rooted ts).asDirectory = .rooted (us ++ [""]) ∧ ∀ t ∈ us ++ [""], Segment t := by
  have hdirectory {us : List String} (hus : ∀ t ∈ us, Segment t) : ∀ t ∈ us ++ [""], Segment t :=
    List.forall_mem_append.mpr ⟨hus, List.forall_mem_singleton.mpr segment_nil⟩
  unfold Path.asDirectory
  dsimp only
  split
  · rename_i hlast
    obtain ⟨us, rfl⟩ := List.getLast?_eq_some_iff.mp hlast
    exact ⟨us, rfl, hts⟩
  · exact ⟨ts, rfl, hdirectory hts⟩

theorem text_asDirectory {ts : List String} (hne : ts ≠ []) (hts : ∀ t ∈ ts, Segment t) :
    (Path.rooted ts).asDirectory.text =
      if (Path.rooted ts).text.toList.getLast? = some '/' then (Path.rooted ts).text else (Path.rooted ts).text ++ "/" := by
  obtain ⟨us, t, rfl⟩ : ∃ us t, ts = us ++ [t] := ⟨_, _, (List.dropLast_concat_getLast hne).symm⟩
  have hlast := @getLast?_text us t (hts t (by simp))
  rw [asDirectory_snoc]
  by_cases ht : t = ""
  · rw [if_pos ht, if_pos (hlast.mpr ht), ht]
  · rw [if_neg ht, if_neg fun h => ht (hlast.mp h), text_snoc (us ++ [t]), String.append_empty]

/-- A web URL that is made a directory is a web URL. -/
theorem Web.asDirectory {u : Url} {a : Authority} {ts : List String} (h : u.Web a ts) :
    ∃ us, u.asDirectory.Web a (us ++ [""]) := by
  obtain ⟨us, hpath, hus⟩ := asDirectory_segments h.segments
  rw [← h.path] at hpath
  exact ⟨us, h.scheme, h.authority, h.kept, hpath, by simp, hus, h.query, h.fragment⟩

/-- The slash is there only once. -/
theorem Web.asDirectory_idem {u : Url} {a : Authority} {ts : List String} (h : u.Web a ts) :
    u.asDirectory.asDirectory = u.asDirectory := by
  unfold Url.asDirectory
  rw [h.path, asDirectory_asDirectory]

/-! ## Names -/

theorem splitScheme?_none {s : List Char} (h : ':' ∉ s) : splitScheme? s = none := by
  unfold splitScheme?
  split
  · rfl
  · split
    · split
      · rename_i hdrop
        exact absurd ((List.dropWhile_sublist isSchemeChar).mem (hdrop ▸ List.mem_cons_self)) h
      · rfl
    · rfl

/-- A name takes the place of the last segment. -/
theorem resolve_name {base : Url} {ts : List String} (hspecial : isSpecial base.scheme = true) (hpath : base.path = .rooted ts)
    {name : String} (hname : Segment name) (hne : name ≠ "") (hcolon : ':' ∉ name.toList) :
    base.resolve name = .ok { base with path := .rooted (ts.dropLast ++ [name]), query := none, fragment := none } := by
  have hchar : ∀ c ∈ name.toList, 0x20 < c.toNat ∧ c ≠ '?' ∧ c ≠ '#' := by
    intro c hc
    have hfree := hname.encoded c hc
    refine ⟨(Reserves.path.visible hfree).1, ?_, ?_⟩ <;> rintro rfl <;> exact absurd hfree (by decide)
  have htail : splitTail true name.toList = (name.toList, none, none) := by
    have happend := splitTail_append (fun c hc => (hchar c hc).2) true []
    rwa [List.append_nil, show splitTail true [] = ([], none, none) from rfl, List.append_nil] at happend
  have hrelative : resolvePath.relative base name.toList true = .ok (base.authority, .rooted (ts.dropLast ++ [name])) := by
    have hdots := @resolveDots_segments [name] (List.forall_mem_singleton.mpr hname) ts.dropLast
    unfold resolvePath.relative
    rw [hpath]
    dsimp only
    rw [splitSegments_of_not_slash hname.slash, ← hdots]
    rfl
  have hread (more : Bool) : resolvePath base more name.toList = .ok (base.authority, .rooted (ts.dropLast ++ [name])) := by
    have hslash := hname.slash
    rw [← hrelative]
    unfold resolvePath
    rw [hspecial]
    generalize htext : name.toList = text at hslash ⊢
    match text with
    | [] => exact absurd (String.toList_eq_nil_iff.mp htext) hne
    | [c] =>
      have hc := hslash c (by simp)
      simp [hc]
    | c :: d :: rest =>
      have hc := hslash c (by simp)
      simp [hc]
  have hnil : ¬ (name.toList = [] ∧ (none : Option String).isNone = true) := fun h => hne (String.toList_eq_nil_iff.mp h.1)
  unfold resolve
  simp only [content_visible fun c hc => (hchar c hc).1, splitScheme?_none hcolon, hspecial, htail, hpath, hread]
  show Except.ok { base with path := _, query := if _ then base.query else none, fragment := none } = _
  rw [if_neg hnil]

/-! ## A slash at the end of a path -/

theorem splitSegments_snoc (s : List Char) : splitSegments true (s ++ ['/']) = splitSegments true s ++ [[]] := by
  induction s with
  | nil => rfl
  | cons c s ih =>
    rw [List.cons_append, splitSegments, splitSegments, ih]
    by_cases hc : isSlash true c = true
    · rw [if_pos hc, if_pos hc, List.cons_append]
    · rw [if_neg hc, if_neg hc]
      cases hs : splitSegments true s with
      | nil => exact absurd hs (splitSegments_ne_nil true s)
      | cons w ws => rfl

theorem getLast?_splitSegments {s : List Char} (hne : s ≠ []) (h : ∀ c ∈ s.getLast?, isSlash true c = false) :
    ∀ w ∈ (splitSegments true s).getLast?, w ≠ [] := by
  induction s with
  | nil => exact absurd rfl hne
  | cons c s ih =>
    by_cases hs : s = []
    · subst hs
      have hc : isSlash true c = false := h c rfl
      rw [splitSegments_of_not_slash (List.forall_mem_singleton.mpr hc)]
      rintro w ⟨⟩
      exact List.cons_ne_nil _ _
    · rw [List.getLast?_cons_of_ne_nil hs] at h
      have ih := ih hs h
      rw [splitSegments]
      by_cases hc : isSlash true c = true
      · rw [if_pos hc, List.getLast?_cons_of_ne_nil (splitSegments_ne_nil true s)]
        exact ih
      · rw [if_neg hc]
        cases hsegments : splitSegments true s with
        | nil => exact absurd hsegments (splitSegments_ne_nil true s)
        | cons w ws =>
          rw [hsegments] at ih
          by_cases hws : ws = []
          · subst hws
            rintro v ⟨⟩
            exact List.cons_ne_nil _ _
          · rw [List.getLast?_cons_of_ne_nil hws] at ih
            dsimp only
            rw [List.getLast?_cons_of_ne_nil hws]
            exact ih

/-- An empty segment behind the last one, which is not empty, is what a directory has there. -/
theorem resolveDots_snoc {done : List String} {ss : List (List Char)} (hne : ss ≠ []) (h : ∀ s ∈ ss.getLast?, s ≠ []) :
    (Path.rooted (resolveDots done (ss ++ [[]]))).asDirectory = (Path.rooted (resolveDots done ss)).asDirectory := by
  have hnil (done : List String) : resolveDots done [[]] = done ++ [""] := rfl
  induction ss generalizing done with
  | nil => exact absurd rfl hne
  | cons s rest ih =>
    have hmore : rest ++ [[]] ≠ [] := by simp
    rw [List.cons_append, resolveDots, resolveDots, if_neg hmore, if_neg hmore]
    by_cases hrest : rest = []
    · subst hrest
      rw [List.nil_append, hnil, hnil, hnil, if_pos rfl, if_pos rfl]
      by_cases hdots : isDotDot s = true
      · rw [if_pos hdots, if_pos hdots]
      · rw [if_neg hdots, if_neg hdots]
        by_cases hdot : isDot s = true
        · rw [if_pos hdot, if_pos hdot]
        · have htext : encodeText inPath s ≠ "" := encodeText_ne_empty (h s rfl)
          rw [if_neg hdot, if_neg hdot, resolveDots, asDirectory_snoc, asDirectory_snoc, if_pos rfl, if_neg htext]
    · have hlast : ∀ t ∈ rest.getLast?, t ≠ [] := by
        intro t ht
        refine h t ?_
        rw [List.getLast?_cons_of_ne_nil hrest]
        exact ht
      rw [if_neg hrest, if_neg hrest]
      split
      · exact ih hrest hlast
      · split
        · exact ih hrest hlast
        · exact ih hrest hlast

theorem authorityPath_snoc {s : List Char} (h : ∀ c ∈ s.getLast?, isSlash true c = false) :
    (authorityPath true (s ++ ['/'])).asDirectory = (authorityPath true s).asDirectory := by
  have hsegments {s : List Char} (hne : s ≠ []) (h : ∀ c ∈ s.getLast?, isSlash true c = false) :
      (Path.rooted (segments true (s ++ ['/']))).asDirectory = (Path.rooted (segments true s)).asDirectory := by
    rw [segments, splitSegments_snoc, resolveDots_snoc (splitSegments_ne_nil true s) (getLast?_splitSegments hne h)]
    rfl
  cases s with
  | nil => rfl
  | cons c rest =>
    show (Path.rooted (segments true (if isSlash true c then rest ++ ['/'] else c :: rest ++ ['/']))).asDirectory =
      (Path.rooted (segments true (if isSlash true c then rest else c :: rest))).asDirectory
    by_cases hc : isSlash true c = true
    · have hrest : rest ≠ [] := by
        rintro rfl
        rw [h c rfl] at hc
        cases hc
      rw [List.getLast?_cons_of_ne_nil hrest] at h
      rw [if_pos hc, if_pos hc, hsegments hrest h]
    · rw [if_neg hc, if_neg hc, hsegments (List.cons_ne_nil c rest) h]

theorem mem_getLast?_of_suffix {s t : List Char} (h : s <:+ t) {c : Char} (hc : c ∈ s.getLast?) : c ∈ t.getLast? := by
  obtain ⟨before, rfl⟩ := h
  rw [List.getLast?_append, hc]
  rfl

theorem mem_splitHost {inside : Bool} {s : List Char} {c : Char} (h : c ∈ (splitHost inside s).2) : c ∈ s := by
  induction s generalizing inside with
  | nil => cases h
  | cons d s ih =>
    rw [splitHost] at h
    split at h
    · exact h
    · exact List.mem_cons_of_mem d (ih h)

theorem mem_splitAt? {s user host : List Char} (h : splitAt? s = some (user, host)) {c : Char} (hc : c ∈ host) : c ∈ s := by
  unfold splitAt? at h
  split at h
  · cases h
    exact List.mem_reverse.mp ((List.takeWhile_sublist _).mem (List.mem_reverse.mp hc))
  · cases h

section
variable {scheme : String} (hspecial : isSpecial scheme = true)
include hspecial

/-- Host and port are read without regard to the path behind them. -/
theorem parsePlace_front (hasUser : Bool) {s : List Char} (hs : ∀ c ∈ s, isSlash true c = false) :
    ∃ place : Except ParseError (Host × Option UInt16 × List Char),
      (∀ x, place = .ok x → ∀ c ∈ x.2.2, isSlash true c = false) ∧
        ∀ t, parsePlace scheme hasUser s t = place.map fun x => (x.1, x.2.1, authorityPath true (x.2.2 ++ t)) := by
  have hbehind : ∀ c ∈ (splitHost false s).2, c ∈ s := fun _ => mem_splitHost
  unfold parsePlace
  rw [hspecial]
  generalize splitHost false s = parts at hbehind
  obtain ⟨hostText, portText⟩ := parts
  dsimp only at hbehind ⊢
  cases parseHost true hostText with
  | error e => exact ⟨.error e, nofun, fun _ => rfl⟩
  | ok host =>
    by_cases hnamed : host = .name "" ∧ (portText ≠ [] ∨ hasUser = true)
    · exact ⟨.error .emptyHost, nofun, fun _ => if_pos hnamed⟩
    · cases hport : optionalPort (defaultPort? scheme) portText with
      | error e => exact ⟨.error e, nofun, fun _ => if_neg hnamed⟩
      | ok place =>
        refine ⟨.ok (host, place), ?_, fun _ => if_neg hnamed⟩
        rintro x ⟨⟩
        exact fun c hc => hs c (hbehind c ((optionalPort_ok hport).1 c hc))

/-- Behind the login the authority is read on, without regard to the path behind it. -/
theorem parsePlace_login (hasUser : Bool) (username : String) (password : Option String) {rest : List Char}
    (hrest : ∀ c ∈ rest, isSlash true c = false) :
    ∃ authority : Except ParseError (Authority × List Char),
      (∀ x, authority = .ok x → ∀ c ∈ x.2, isSlash true c = false) ∧
        ∀ t, (do let x ← parsePlace scheme hasUser rest t; pure (⟨username, password, x.1, x.2.1⟩, x.2.2)) =
          authority.map fun x => (x.1, authorityPath true (x.2 ++ t)) := by
  obtain ⟨place, hslash, hplace⟩ := parsePlace_front hspecial hasUser hrest
  refine ⟨place.map fun x => (⟨username, password, x.1, x.2.1⟩, x.2.2), fun x hx => ?_, fun t => ?_⟩
  · obtain ⟨y, hy, rfl⟩ := Decimal.map_ok_iff.mp hx
    exact hslash y hy
  · rw [hplace]
    cases place <;> rfl

theorem parsePlace_nil (hasUser : Bool) (t : List Char) : parsePlace scheme hasUser [] t = .error .emptyHost := by
  unfold parsePlace parseHost
  rw [hspecial]
  rfl

/-- An authority is read without regard to the path behind it. -/
theorem parseAuthority_front (more : Bool) {front : List Char} (hfront : ∀ c ∈ front, isSlash true c = false) :
    ∃ authority : Except ParseError (Authority × List Char),
      (∀ x, authority = .ok x → ∀ c ∈ x.2, isSlash true c = false) ∧
        ∀ t, (∀ c ∈ t.head?, isSlash true c = true) →
          parseAuthority scheme more (front ++ t) = authority.map fun x => (x.1, authorityPath true (x.2 ++ t)) := by
  have hcut {t : List Char} (ht : ∀ c ∈ t.head?, isSlash true c = true) := cut_slash hfront ht
  cases hsplit : splitAt? front with
  | none =>
    obtain ⟨authority, hslash, hread⟩ := parsePlace_login hspecial ("" ≠ "" || (none : Option String).isSome) "" none hfront
    refine ⟨authority, hslash, fun t ht => ?_⟩
    rw [← hread]
    unfold parseAuthority
    simp only [hspecial, (hcut ht).1, (hcut ht).2, hsplit]
    rfl
  | some parts =>
    obtain ⟨user, rest⟩ := parts
    have hrest : ∀ c ∈ rest, isSlash true c = false := fun c hc => hfront c (mem_splitAt? hsplit hc)
    cases user with
    | nil =>
      by_cases hnil : rest = []
      · subst hnil
        refine ⟨.error .emptyHost, nofun, fun t ht => ?_⟩
        unfold parseAuthority
        simp only [hspecial, (hcut ht).1, (hcut ht).2, hsplit, pure_bind, parsePlace_nil hspecial]
        split <;> rfl
      · obtain ⟨authority, hslash, hread⟩ := parsePlace_login hspecial ("" ≠ "" || (none : Option String).isSome) "" none hrest
        refine ⟨authority, hslash, fun t ht => ?_⟩
        rw [← hread]
        unfold parseAuthority
        simp only [hspecial, (hcut ht).1, (hcut ht).2, hsplit]
        rw [if_neg fun h => hnil h.1]
        rfl
    | cons c user =>
      obtain ⟨authority, hslash, hread⟩ := parsePlace_login hspecial ((parseUserinfo (c :: user)).1 ≠ "" || (parseUserinfo (c :: user)).2.isSome)
        (parseUserinfo (c :: user)).1 (parseUserinfo (c :: user)).2 hrest
      refine ⟨authority, hslash, fun t ht => ?_⟩
      rw [← hread]
      unfold parseAuthority
      simp only [hspecial, (hcut ht).1, (hcut ht).2, hsplit]
      rfl

/-- A slash behind an authority and its path only ends the path. -/
theorem parseAuthority_snoc (more : Bool) {s : List Char} (hs : ∀ c ∈ s.getLast?, isSlash true c = false) :
    (parseAuthority scheme more (s ++ ['/'])).map (fun x => (x.1, x.2.asDirectory)) =
      (parseAuthority scheme more s).map fun x => (x.1, x.2.asDirectory) := by
  have hfront : ∀ c ∈ s.takeWhile fun c => !isSlash true c, isSlash true c = false := by
    intro c hc
    simpa using List.all_eq_true.mp List.all_takeWhile c hc
  have hpath : ∀ c ∈ (s.dropWhile fun c => !isSlash true c).head?, isSlash true c = true := by
    intro c hc
    have hstop := List.head?_dropWhile_not (fun c => !isSlash true c) s
    rw [hc] at hstop
    simpa using hstop
  have hend : ∀ c ∈ (s.dropWhile fun c => !isSlash true c).getLast?, isSlash true c = false :=
    fun c hc => hs c (mem_getLast?_of_suffix (List.dropWhile_suffix _) hc)
  obtain ⟨authority, hrest, hread⟩ := parseAuthority_front hspecial more hfront
  rw [← @List.takeWhile_append_dropWhile _ (fun c => !isSlash true c) s]
  generalize (s.takeWhile fun c => !isSlash true c) = front at *
  generalize (s.dropWhile fun c => !isSlash true c) = t at *
  have hsnoc : ∀ c ∈ (t ++ ['/']).head?, isSlash true c = true := by
    cases t with
    | nil =>
      rintro c ⟨⟩
      decide
    | cons d t => exact hpath
  rw [List.append_assoc, hread t hpath, hread _ hsnoc]
  cases authority with
  | error e => rfl
  | ok x =>
    have hlast : ∀ c ∈ (x.2 ++ t).getLast?, isSlash true c = false := by
      intro c hc
      by_cases hnil : t = []
      · rw [hnil, List.append_nil] at hc
        exact hrest x rfl c (List.mem_of_getLast? hc)
      · rw [List.getLast?_append_of_ne_nil _ hnil] at hc
        exact hend c hc
    show Except.ok (x.1, (authorityPath true (x.2 ++ (t ++ ['/']))).asDirectory) =
      Except.ok (x.1, (authorityPath true (x.2 ++ t)).asDirectory)
    rw [← List.append_assoc, authorityPath_snoc hlast]

end

/-- Two texts that are the same but for a slash that the second has at the end of its path,
    where the first has none. White space around them and line breaks do not count. -/
structure Slashed (bare slashed : String) : Prop where
  parts : ∃ front tail : List Char, content bare.toList = front ++ tail ∧ content slashed.toList = front ++ '/' :: tail ∧
    (∀ c ∈ front, c ≠ '?' ∧ c ≠ '#') ∧ (∀ c ∈ front.getLast?, isSlash true c = false) ∧ ∀ c ∈ tail.head?, c = '?' ∨ c = '#'

theorem splitScheme?_eq_some_iff {s rest : List Char} {scheme : String} :
    splitScheme? s = some (scheme, rest) ↔
      ∃ name, s = name ++ ':' :: rest ∧ (∃ c ∈ name.head?, c.isAlpha = true) ∧ (∀ c ∈ name, isSchemeChar c = true) ∧
        scheme = String.ofList (name.map Char.toLower) := by
  cases s with
  | nil => exact ⟨nofun, fun ⟨name, h, _⟩ => absurd h.symm (by simp)⟩
  | cons c cs =>
    rw [splitScheme?]
    constructor
    · intro h
      split at h
      · rename_i hc
        split at h
        · rename_i rest hdrop
          cases h
          have htext := @List.takeWhile_append_dropWhile _ isSchemeChar (c :: cs)
          have halpha : isSchemeChar c = true := by
            rw [isSchemeChar, Char.isAlphanum, hc]
            rfl
          rw [hdrop] at htext
          refine ⟨_, htext.symm, ⟨c, ?_, hc⟩, List.all_eq_true.mp List.all_takeWhile, rfl⟩
          rw [List.takeWhile_cons_of_pos halpha]
          rfl
        · cases h
      · cases h
    · rintro ⟨name, htext, ⟨d, hd, halpha⟩, hname, rfl⟩
      have hcolon : ∀ e ∈ (':' :: rest).head?, isSchemeChar e = false := by
        rintro e ⟨⟩
        decide
      have hc : c = d := by
        have hhead := congrArg List.head? htext
        rw [List.head?_append, hd] at hhead
        exact Option.some.inj hhead
      rw [if_pos (hc ▸ halpha), htext, dropWhile_exact hname hcolon, takeWhile_exact hname hcolon]
      rfl

/-- A scheme that ends before a mark is found whatever stands in the place of the mark. -/
theorem splitScheme?_front {f t : List Char} (ht : ∀ c ∈ t.head?, c = '/' ∨ c = '?' ∨ c = '#') {scheme : String}
    {rest : List Char} (h : splitScheme? (f ++ t) = some (scheme, rest)) :
    ∃ body, body <:+ f ∧ ∀ s, splitScheme? (f ++ s) = some (scheme, body ++ s) := by
  obtain ⟨name, htext, hhead, hname, hscheme⟩ := splitScheme?_eq_some_iff.mp h
  have hstop : ∀ c ∈ t.head?, isSchemeChar c = false ∧ c ≠ ':' := by
    intro c hc
    rcases ht c hc with rfl | rfl | rfl <;> decide
  rcases List.append_eq_append_iff.mp htext with ⟨a, rfl, hrest⟩ | ⟨a, rfl, hrest⟩
  · -- The mark would stand in the scheme, or be its colon.
    cases a with
    | nil => exact absurd rfl (hstop ':' (hrest ▸ rfl)).2
    | cons d a =>
      have hd := (hstop d (hrest ▸ rfl)).1
      rw [hname d (by simp)] at hd
      cases hd
  · cases a with
    | nil =>
      obtain rfl : t = ':' :: rest := hrest.symm
      exact absurd rfl (hstop ':' rfl).2
    | cons d body =>
      obtain ⟨rfl, rfl⟩ := List.cons.inj hrest
      refine ⟨body, (List.suffix_cons ':' body).trans (List.suffix_append name _), fun s => ?_⟩
      exact splitScheme?_eq_some_iff.mpr ⟨name, by simp, hhead, hname, hscheme⟩

theorem splitTail_mark {t : List Char} (ht : ∀ c ∈ t.head?, c = '?' ∨ c = '#') (special : Bool) : (splitTail special t).1 = [] := by
  rw [splitTail_fst]
  cases t with
  | nil => rfl
  | cons m t =>
    refine List.takeWhile_cons_of_neg ?_
    rcases ht m rfl with rfl | rfl <;> decide


/-- A web URL is read from what stands behind its scheme, query and fragment taken off. -/
theorem parse_web {text scheme : String} (hscheme : scheme = "http" ∨ scheme = "https") {body tail : List Char}
    (hsplit : splitScheme? (content text.toList) = some (scheme, body ++ tail)) (hbody : ∀ c ∈ body, c ≠ '?' ∧ c ≠ '#')
    (htail : ∀ c ∈ tail.head?, c = '?' ∨ c = '#') :
    parse text = (parseAuthority scheme ((splitTail true tail).2.1.isSome || (splitTail true tail).2.2.isSome)
      (body.dropWhile (isSlash true))).map fun x => ⟨scheme, some x.1, x.2, (splitTail true tail).2.1, (splitTail true tail).2.2⟩ := by
  obtain ⟨hspecial, hfile⟩ := web_special hscheme
  unfold parse
  rw [hsplit]
  simp only [hspecial, splitTail_append hbody, splitTail_mark htail, List.append_nil, if_neg hfile, if_true]
  generalize parseAuthority scheme _ _ = read
  cases read <;> rfl

theorem dropWhile_slash_snoc {s : List Char} (h : ∀ c ∈ s.getLast?, isSlash true c = false) :
    (s ++ ['/']).dropWhile (isSlash true) = if s = [] then [] else s.dropWhile (isSlash true) ++ ['/'] := by
  by_cases hs : s = []
  · rw [hs, if_pos rfl]
    rfl
  · have hne : s.dropWhile (isSlash true) ≠ [] := by
      intro hnil
      obtain ⟨c, hc⟩ := Option.isSome_iff_exists.mp (List.getLast?_isSome.mpr hs)
      have hslash := List.dropWhile_eq_nil_iff.mp hnil c (List.mem_of_getLast? hc)
      rw [h c hc] at hslash
      cases hslash
    rw [if_neg hs, List.dropWhile_append, if_neg (by simpa using hne)]

/-- With the slash and without, the authority is the same, and the paths are as directories. -/
theorem parseAuthority_slashed {scheme : String} (hspecial : isSpecial scheme = true) (more : Bool) {body : List Char}
    (hend : ∀ c ∈ body.getLast?, isSlash true c = false) :
    (parseAuthority scheme more ((body ++ ['/']).dropWhile (isSlash true))).map (fun x => (x.1, x.2.asDirectory)) =
      (parseAuthority scheme more (body.dropWhile (isSlash true))).map fun x => (x.1, x.2.asDirectory) := by
  rw [dropWhile_slash_snoc hend]
  by_cases hnil : body = []
  · rw [if_pos hnil, hnil]
    rfl
  · rw [if_neg hnil]
    exact parseAuthority_snoc hspecial more fun c hc => hend c (mem_getLast?_of_suffix (List.dropWhile_suffix _) hc)

/-- Whether its slash is in the text of a URL or not, the directory is the same. -/
theorem Slashed.parse_eq {bare slashed : String} (h : Slashed bare slashed) {u : Url}
    (hread : parse bare = .ok u ∨ parse slashed = .ok u) (hscheme : u.scheme = "http" ∨ u.scheme = "https") :
    (parse slashed).map asDirectory = (parse bare).map asDirectory := by
  obtain ⟨front, tail, hbare, hslashed, hfree, hlast, htail⟩ := h.parts
  have hslash : ∀ c ∈ ('/' :: tail).head?, c = '/' ∨ c = '?' ∨ c = '#' := by
    rintro c ⟨⟩
    exact Or.inl rfl
  obtain ⟨body, hsuffix, hany⟩ :
      ∃ body, body <:+ front ∧ ∀ s, splitScheme? (front ++ s) = some (u.scheme, body ++ s) := by
    rcases hread with hread | hread <;> obtain ⟨rest, hsplit, -⟩ := parse_ok hread
    · rw [hbare] at hsplit
      exact splitScheme?_front (fun c hc => Or.inr (htail c hc)) hsplit
    · rw [hslashed] at hsplit
      exact splitScheme?_front hslash hsplit
  have hbody : ∀ c ∈ body, c ≠ '?' ∧ c ≠ '#' := fun c hc => hfree c (hsuffix.mem hc)
  have hend : ∀ c ∈ body.getLast?, isSlash true c = false := fun c hc => hlast c (mem_getLast?_of_suffix hsuffix hc)
  have hwithout : splitScheme? (content bare.toList) = some (u.scheme, body ++ tail) := by
    rw [hbare, hany]
  have hwith : splitScheme? (content slashed.toList) = some (u.scheme, body ++ ['/'] ++ tail) := by
    rw [hslashed, hany, List.append_cons]
  rw [parse_web hscheme hwithout hbody htail, parse_web hscheme hwith (List.forall_mem_append.mpr ⟨hbody, by simp⟩) htail]
  generalize (splitTail true tail).2 = marks
  have hmap (read : Except ParseError (Authority × Path)) :
      (read.map fun x => (⟨u.scheme, some x.1, x.2, marks.1, marks.2⟩ : Url)).map asDirectory =
        (read.map fun x => (x.1, x.2.asDirectory)).map fun x => ⟨u.scheme, some x.1, x.2, marks.1, marks.2⟩ := by
    cases read <;> rfl
  rw [hmap, hmap, parseAuthority_slashed (web_special hscheme).1 _ hend]

end NumberRegistry.Url
