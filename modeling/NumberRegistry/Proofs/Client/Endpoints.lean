/-
  NumberRegistry.Proofs.Client.Endpoints — a client's base, and what stands below it.

  A client is made from any text that is read as a URL of `http` or `https`. Its base is
  that URL with a slash at the end of its path, and the endpoints stand below the path as
  it was written: no segment of it is lost, changed or put together with another.

  Proved, for every such text:
  - `endpoints_below_base`: the base, its endpoints, the client made again from the base's
    text, and the clients made with and without the slash.
  - `wide_name_is_not_read_back`: a name may be too long, in the form in which it is
    written, to be read again.
-/
import NumberRegistry.Client.Basic
import NumberRegistry.Proofs.Url.Ideographs

namespace NumberRegistry

open Text

namespace Client

/-! ## The base -/

/-- All that a client takes from a text is the directory of the URL. -/
theorem new_eq (b : String) : new b = (((Url.parse b).map Url.asDirectory).mapError Error.url).map Client.mk := by
  unfold new
  cases Url.parse b <;> rfl

theorem new_of_parse {b : String} {u : Url} (h : Url.parse b = .ok u) : new b = .ok ⟨u.asDirectory⟩ := by
  rw [new_eq, h]
  rfl

theorem new_slashed {bare slashed : String} (h : Url.Slashed bare slashed) {u : Url}
    (hread : Url.parse bare = .ok u ∨ Url.parse slashed = .ok u) (hscheme : u.scheme = "http" ∨ u.scheme = "https") :
    new bare = .ok ⟨u.asDirectory⟩ ∧ new slashed = .ok ⟨u.asDirectory⟩ := by
  have hsame : new slashed = new bare := by
    rw [new_eq, new_eq, h.parse_eq hread hscheme]
  rcases hread with hread | hread
  · exact ⟨new_of_parse hread, hsame.trans (new_of_parse hread)⟩
  · exact ⟨hsame.symm.trans (new_of_parse hread), new_of_parse hread⟩

/-! ## Endpoints -/

/-- What stands below a base: the name behind the base's path, without query and fragment. -/
structure StandsBelow (base : Url) (name : String) (url : Url) : Prop where
  scheme : url.scheme = base.scheme
  authority : url.authority = base.authority
  path : url.path.text = base.path.text ++ name
  segments : ∃ ss, base.path = .rooted (ss ++ [""]) ∧ url.path = .rooted (ss ++ [name])
  query : url.query = none
  fragment : url.fragment = none

/-- A name is joined to a directory as a reference is resolved against it. -/
theorem join_standsBelow {base : Url} {a : Url.Authority} {ss : List String} (h : base.Web a (ss ++ [""])) {name : String}
    (hname : Url.Segment name) (hne : name ≠ "") (hcolon : ':' ∉ name.toList) :
    ∃ url, base.join name = .ok url ∧ base.resolve name = .ok url ∧ StandsBelow base name url := by
  refine ⟨{ base with path := .rooted (ss ++ [name]), query := none, fragment := none }, ?_, ?_, ?_⟩
  · unfold Url.join
    rw [h.path]
    simp
  · rw [Url.resolve_name (Url.web_special h.scheme).1 h.path hname hne hcolon, List.dropLast_concat]
  · refine ⟨rfl, rfl, ?_, ⟨ss, h.path, rfl⟩, rfl, rfl⟩
    rw [h.path, Url.text_snoc, Url.text_snoc, String.append_empty]

theorem segment_name {name : String} (h : name ∈ ["numbers", "ready"]) : Url.Segment name ∧ name ≠ "" ∧ ':' ∉ name.toList := by
  have hplain : (name.toList.all fun c => !Url.inPath c && !Url.isSlash true c) = true ∧ Url.isDot name.toList = false ∧
      Url.isDotDot name.toList = false ∧ name ≠ "" ∧ ':' ∉ name.toList := by
    simp only [List.mem_cons, List.not_mem_nil, or_false] at h
    rcases h with rfl | rfl <;> decide
  obtain ⟨hchars, hdot, hdots, hne, hcolon⟩ := hplain
  simp only [List.all_eq_true, Bool.and_eq_true, Bool.not_eq_true'] at hchars
  exact ⟨⟨fun c hc => (hchars c hc).1, fun c hc => (hchars c hc).2, hdot, hdots⟩, hne, hcolon⟩

/-- A client can be made from every text that is read as a URL of `http` or `https`. Its
    base is that URL, with a slash at the end of its path, which is read again as it is.
    The endpoints stand below the base. From the base's text the same client is made, or
    none if the host has a label too long to be read. With the slash in the text and
    without it the same client is made. -/
theorem endpoints_below_base {b : String} {u : Url} (hread : Url.parse b = .ok u)
    (hscheme : u.scheme = "http" ∨ u.scheme = "https") :
    ∃ c, new b = .ok c ∧ (∃ path, c.base = { u with path }) ∧
      c.base.path.text = (if u.path.text.toList.getLast? = some '/' then u.path.text else u.path.text ++ "/") ∧
      Url.authorityPath true c.base.path.text.toList = c.base.path ∧
      (∀ name ∈ ["numbers", "ready"], ∃ url, c.base.join name = .ok url ∧ c.base.resolve name = .ok url ∧
        StandsBelow c.base name url) ∧
      (u.ShortHost → new c.base.text = .ok c) ∧ (¬ u.ShortHost → new c.base.text = .error (.url .domainName)) ∧
      ∀ bare slashed, Url.Slashed bare slashed → b = bare ∨ b = slashed → new bare = .ok c ∧ new slashed = .ok c := by
  obtain ⟨a, ts, hweb⟩ := Url.web_of_parse hread hscheme
  obtain ⟨ss, hbase⟩ := hweb.asDirectory
  refine ⟨⟨u.asDirectory⟩, new_of_parse hread, ⟨_, rfl⟩, ?_, ?_, fun name hname => ?_, fun hshort => ?_, fun hlong => ?_, ?_⟩
  · have htext := Url.text_asDirectory hweb.rooted hweb.segments
    rw [← hweb.path] at htext
    exact htext
  · have hpath := hbase.path
    show Url.authorityPath true u.asDirectory.path.text.toList = u.asDirectory.path
    rw [hpath]
    exact Url.segments_text hbase.segments hbase.rooted
  · obtain ⟨hsegment, hne, hcolon⟩ := segment_name hname
    exact join_standsBelow hbase hsegment hne hcolon
  · rw [new_of_parse (hbase.parse_short (hweb.shortHost_iff.mp hshort)), hweb.asDirectory_idem]
  · rw [new_eq, hbase.parse_long (mt hweb.shortHost_iff.mpr hlong)]
    rfl
  · intro bare slashed hslashed hb
    refine new_slashed hslashed ?_ hscheme
    rcases hb with rfl | rfl
    · exact Or.inl hread
    · exact Or.inr hread

/-- A URL with a login, an encoded slash, an empty segment, a query and a fragment. -/
def oddUrl : Url where
  scheme := "http"
  authority := some ⟨"u", some "p", .ipv6 ⟨[0x2001, 0xdb8, 0, 0, 0, 0, 0, 1], rfl⟩, some 81⟩
  path := .rooted ["a%2fb", "", "c"]
  query := some "x"
  fragment := some "y"

theorem odd_base_has_endpoints :
    Url.parse "http://u:p@[2001:db8::1]:81/a%2fb//c?x#y" = .ok oddUrl ∧ oddUrl.ShortHost ∧
      Url.Slashed "http://u:p@[2001:db8::1]:81/a%2fb//c?x#y" "http://u:p@[2001:db8::1]:81/a%2fb//c/?x#y" ∧
      ∃ c, new "http://u:p@[2001:db8::1]:81/a%2fb//c?x#y" = .ok c ∧ c.base.path.text = "/a%2fb//c/" ∧
        (∃ url, c.base.join "numbers" = .ok url ∧ url.path.text = "/a%2fb//c/numbers" ∧ url.query = none) ∧
        new c.base.text = .ok c ∧ new "http://u:p@[2001:db8::1]:81/a%2fb//c/?x#y" = .ok c := by
  have hread : Url.parse "http://u:p@[2001:db8::1]:81/a%2fb//c?x#y" = .ok oddUrl := rfl
  have hshort : oddUrl.ShortHost := by
    rintro a ⟨⟩
    trivial
  have hslashed : Url.Slashed "http://u:p@[2001:db8::1]:81/a%2fb//c?x#y" "http://u:p@[2001:db8::1]:81/a%2fb//c/?x#y" :=
    ⟨"http://u:p@[2001:db8::1]:81/a%2fb//c".toList, "?x#y".toList, by decide, by decide, by simp, by simp [Url.isSlash], by simp⟩
  obtain ⟨c, hnew, -, hpath, -, hendpoints, hagain, -, hslash⟩ := endpoints_below_base hread (Or.inl rfl)
  obtain ⟨url, hjoin, -, hbelow⟩ := hendpoints "numbers" (by decide)
  have htext : c.base.path.text = "/a%2fb//c/" := hpath.trans (by decide)
  refine ⟨hread, hshort, hslashed, c, hnew, htext, ⟨url, hjoin, ?_, hbelow.query⟩, hagain hshort, ?_⟩
  · rw [hbelow.path, htext]
    rfl
  · exact (hslash _ _ hslashed (Or.inl rfl)).2

/-- The base can be longer than the text it comes from, and then too long to be read: this
    name is written with over two thousand characters. -/
theorem wide_name_is_not_read_back :
    ∃ c, new ("http://" ++ String.ofList Url.wideLabel ++ "/") = .ok c ∧ new c.base.text = .error (.url .domainName) := by
  have hallowed : ∀ c ∈ Url.wideLabel, Url.Domain.isForbidden c = false := fun c hc => (Url.ideographs_wideLabel c hc).allowed
  have hread := Url.parse_named Url.wideLabel_ne_nil hallowed Url.parseDomain_wideLabel
  obtain ⟨a, ts, hweb⟩ := Url.web_of_parse hread (Or.inl rfl)
  obtain ⟨ss, hbase⟩ := hweb.asDirectory
  obtain rfl : _ = a := Option.some.inj hweb.authority
  refine ⟨_, new_of_parse hread, ?_⟩
  rw [new_eq, hbase.parse_long Url.not_short_wideLabel]
  rfl

end Client

end NumberRegistry
