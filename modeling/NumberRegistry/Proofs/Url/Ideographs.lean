/-
  NumberRegistry.Proofs.Url.Ideographs — a name of ideographs, and what is written for it.

  Nothing is done to ideographs when a name is read: they are mapped to themselves, are
  their own normal form, and follow no rule for directions or joiners. So a label of them
  is a host, written in Punycode (`parseDomain_ideographs`), if it has at most `longestLabel`
  of them. How long the Punycode is depends on how far apart they stand; `wideLabel` has so
  many, so far apart, that it is too long to be read (`not_short_wideLabel`).
-/
import NumberRegistry.Proofs.Url.Directory

namespace NumberRegistry.Url

open Text

/-! ## Ideographs -/

def IsIdeograph (c : Char) : Prop := 0x4E00 ≤ c.toNat ∧ c.toNat < 0xA000

theorem bidiClasses_ok : bidiClasses.covers 0x4E00 0xA000 (· == ['L']) = true := by
  have h : ∃ lines texts, bidiClasses = Labels.ofLines lines ∧ Labels.Spelt lines texts ∧
      (Labels.ofTexts texts).covers 0x4E00 0xA000 (· == ['L']) = true :=
    ⟨_, _, rfl, by repeat constructor, by decide +kernel⟩
  obtain ⟨lines, texts, hlines, hspelt, hok⟩ := h
  rw [hlines, hspelt.ofLines]
  exact hok

theorem combiningMarks_ok : Ranges.avoids false combiningMarks 0x4E00 0xA000 = true := by
  have h : ∃ lines texts, combiningMarks = Ranges.ofLines lines ∧ Labels.Spelt lines texts ∧
      Ranges.avoids false (Ranges.ofTexts texts) 0x4E00 0xA000 = true :=
    ⟨_, _, rfl, by repeat constructor, by decide +kernel⟩
  obtain ⟨lines, texts, hlines, hspelt, hok⟩ := h
  rw [hlines, Ranges.ofLines_spelt hspelt]
  exact hok

namespace IsIdeograph

variable {c : Char}

theorem stable (h : IsIdeograph c) : Domain.Stable c :=
  Domain.kept_iff.mp (Domain.testBit_of_includes Domain.mapping_sound.ideograph h.1 (by have := h.2; omega))

theorem not_ascii (h : IsIdeograph c) : ¬ c.toNat < 128 := by
  have := h.1
  omega

theorem ne_ascii (h : IsIdeograph c) {d : Char} (hd : d.toNat < 128) : c ≠ d := by
  rintro rfl
  exact h.not_ascii hd

theorem allowed (h : IsIdeograph c) : Domain.isForbidden c = false := by
  cases hc : Domain.isForbidden c with
  | false => rfl
  | true => exact absurd (Domain.forbidden_ascii hc) h.not_ascii

theorem not_joiner (h : IsIdeograph c) : c ≠ '\u200C' ∧ c ≠ '\u200D' := by
  have hlow := h.1
  constructor <;> rintro rfl <;> exact absurd hlow (by decide)

theorem not_mark (h : IsIdeograph c) : combiningMarks.mem c = false := Ranges.memFrom_of_avoids combiningMarks_ok h.1 h.2

theorem leftToRight (h : IsIdeograph c) : Domain.isRightToLeft c = false := by
  obtain ⟨label, i, hfind, hlabel⟩ := Labels.find?_of_covers bidiClasses_ok h.1 h.2
  have hdirection : Domain.direction c = "L" := by
    unfold Domain.direction Labels.label
    rw [hfind]
    exact congrArg String.ofList (beq_iff_eq.mp hlabel)
  rw [Domain.isRightToLeft, hdirection]
  decide

end IsIdeograph

/-- The name that is written for a label that is not ASCII. -/
def inPunycode (s : List Char) : String := String.ofList ("xn--".toList ++ Punycode.encode s)

theorem toList_inPunycode (s : List Char) : (inPunycode s).toList = "xn--".toList ++ Punycode.encode s := String.toList_ofList

/-- A label in Punycode is no number. -/
theorem endsInNumber_marked {code : List Char} (hdot : '.' ∉ "xn--".toList ++ code) :
    Host.endsInNumber ("xn--".toList ++ code) = false := by
  have hparts : Host.parts ("xn--".toList ++ code) = ["xn--".toList ++ code] := by
    unfold Host.parts
    rw [Domain.labels_of_not_mem hdot]
    rfl
  have hletter : 'x' ∈ "xn--".toList ++ code := List.mem_append_left code (by decide)
  have hvalue : Host.part? ("xn--".toList ++ code) = none := by
    show (("xn--".toList ++ code).mapM (Host.digitBelow 10)).map (Net.Reader.ofDigits 10) = none
    rw [mapM_none hletter (by decide), Option.map_none]
  unfold Host.endsInNumber
  rw [hparts]
  show (_ || (Host.part? ("xn--".toList ++ code)).isSome) = false
  rw [hvalue]
  rfl

/-! ## A label of ideographs -/

section
variable {s : List Char} (h : ∀ c ∈ s, IsIdeograph c) (hne : s ≠ [])
include h

theorem not_mem_ideographs {d : Char} (hd : d.toNat < 128) : d ∉ s := fun hmem => (h d hmem).ne_ascii hd rfl

theorem joinersAllowed_ideographs (before : List Char) : Domain.joinersAllowed before s = true := by
  induction s generalizing before with
  | nil => rfl
  | cons c s ih =>
    rw [List.forall_mem_cons] at h
    rw [Domain.joinersAllowed, Domain.joinerAllowed, if_pos h.1.not_joiner, ih h.2]
    rfl

theorem labelAllowed_ideographs : Domain.labelAllowed s = true := by
  have hforbidden : s.any Domain.isForbidden = false := by
    rw [List.any_eq_false]
    intro c hc
    simp [(h c hc).allowed]
  have hmark : (s.head?.map combiningMarks.mem).getD false = false := by
    cases s with
    | nil => rfl
    | cons c s => exact (h c List.mem_cons_self).not_mark
  rw [Domain.labelAllowed, hforbidden, hmark, joinersAllowed_ideographs h]
  rfl

theorem unicode?_ideographs (hlength : s.length ≤ Domain.longestLabel) : Domain.unicode? s = some s := by
  unfold Domain.unicode?
  split
  · exact absurd List.mem_cons_self (not_mem_ideographs h (by decide))
  · rw [if_neg (by simp [hlength])]

include hne

theorem not_isAscii_ideographs : ¬ Domain.isAscii s = true := by
  obtain ⟨c, hc⟩ := List.exists_mem_of_ne_nil s hne
  intro hascii
  exact (h c hc).not_ascii (of_decide_eq_true (List.all_eq_true.mp hascii c hc))

theorem toAscii?_ideographs (hlength : s.length ≤ Domain.longestLabel) :
    Domain.toAscii? (Utf8.encode s) = some (inPunycode s) := by
  have hnormal : Normal.nfc s = s := Normal.nfc_inert fun c hc => Or.inr (h c hc)
  have hread : [s].mapM Domain.unicode? = some [s] := by
    simp [unicode?_ideographs h hlength]
  have hdirection : s.any Domain.isRightToLeft = false := by
    rw [List.any_eq_false]
    intro c hc
    simp [(h c hc).leftToRight]
  have hallowed : ([s].all Domain.labelAllowed && (!([s].any (·.any Domain.isRightToLeft)) || [s].all Domain.directionAllowed)) = true := by
    simp [labelAllowed_ideographs h, hdirection]
  unfold Domain.toAscii?
  simp only [Utf8.decode?_encode, Except.toOption, Option.bind_eq_bind, Option.bind_some,
    Domain.mapM_stable fun c hc => (h c hc).stable, Domain.flatten_singletons, hnormal,
    Domain.labels_of_not_mem (not_mem_ideographs h (by decide : '.'.toNat < 128)), hread]
  rw [if_pos hallowed, List.map_singleton, Domain.asciiLabel, if_neg (not_isAscii_ideographs h hne)]
  rfl

theorem dot_not_mem_encode_ideographs : '.' ∉ "xn--".toList ++ Punycode.encode s := by
  have hascii := not_isAscii_ideographs h hne
  have hwhole : '.' ∉ Domain.asciiLabel s := Domain.dot_not_mem_asciiLabel
    ⟨fun c hc => (h c hc).stable, not_mem_ideographs h (by decide), Normal.nfc_inert fun c hc => Or.inr (h c hc),
      fun hall => absurd hall hascii⟩
  rwa [Domain.asciiLabel, if_neg hascii] at hwhole

/-- The host is the name in Punycode. -/
theorem parseDomain_ideographs (hlength : s.length ≤ Domain.longestLabel) :
    Host.parseDomain s = .ok (.name (inPunycode s)) := by
  have hdot := dot_not_mem_encode_ideographs h hne
  have hascii := toAscii?_ideographs h hne hlength
  rw [← Host.decode_plain (not_mem_ideographs h (by decide : '%'.toNat < 128))] at hascii
  cases s with
  | nil => exact absurd rfl hne
  | cons c s =>
    have hnamed : inPunycode (c :: s) ≠ "" := by
      intro hempty
      have hlist := congrArg String.toList hempty
      rw [toList_inPunycode] at hlist
      cases hlist
    rw [Host.parseDomain_cons ((h c List.mem_cons_self).ne_ascii (by decide)), hascii]
    simp only [if_neg hnamed, toList_inPunycode, endsInNumber_marked hdot, Bool.false_eq_true, if_false]

end

/-! ## A URL with such a host -/

theorem parse_named {s : List Char} (hne : s ≠ []) (hs : ∀ c ∈ s, Domain.isForbidden c = false) {domain : String}
    (hhost : Host.parseDomain s = .ok (.name domain)) :
    parse ("http://" ++ String.ofList s ++ "/") = .ok ⟨"http", some ⟨"", none, .name domain, none⟩, .rooted [""], none, none⟩ := by
  have htext : ("http://" ++ String.ofList s ++ "/").toList = "http".toList ++ ':' :: ('/' :: '/' :: (s ++ ['/'])) := by
    simp
  have hslash : ∀ c ∈ s, isSlash true c = false := fun c hc => (not_slash_of_ends (allowed_inner (hs c hc)).1.ends).1
  have hvisible : ∀ c ∈ ("http://" ++ String.ofList s ++ "/").toList, 0x20 < c.toNat := by
    rw [htext]
    simp only [List.forall_mem_append, List.forall_mem_cons]
    exact ⟨by simp, by decide, by decide, by decide, fun c hc => (allowed_inner (hs c hc)).1.visible, by simp⟩
  have hscheme : splitScheme? (content ("http://" ++ String.ofList s ++ "/").toList) =
      some ("http", '/' :: '/' :: (s ++ ['/']) ++ []) := by
    rw [content_visible hvisible, htext, splitScheme?_append (by decide) (by simp [isSchemeChar]) (by decide), List.append_nil,
      String.ofList_toList]
  have hbody : ∀ c ∈ '/' :: '/' :: (s ++ ['/']), c ≠ '?' ∧ c ≠ '#' := by
    simp only [List.forall_mem_cons, List.forall_mem_append]
    exact ⟨by decide, by decide, fun c hc => (not_slash_of_ends (allowed_inner (hs c hc)).1.ends).2, by simp⟩
  have hcut := @cut_slash s ['/'] hslash (by simp [isSlash])
  have hlogin : splitAt? s = none := by
    rw [splitAt?, if_neg]
    intro hmem
    exact (allowed_inner (hs '@' (List.contains_iff_mem.mp hmem))).1.login rfl
  have hplace : parsePlace "http" false s ['/'] = .ok (.name domain, none, .rooted [""]) := by
    have hsplit := @splitHost_plain s (fun c hc => (allowed_inner (hs c hc)).2) [] (by simp)
    rw [List.append_nil] at hsplit
    unfold parsePlace parseHost
    rw [hsplit]
    simp only [show isSpecial "http" = true from rfl, Bool.not_true, Bool.false_eq_true, if_false, if_neg hne, hhost]
    exact if_neg (by simp)
  rw [parse_web (Or.inl rfl) hscheme hbody (by simp), dropWhile_slashes hne hslash]
  unfold parseAuthority
  simp only [show isSpecial "http" = true from rfl, hcut.1, hcut.2, hlogin, pure_bind]
  rw [show (decide ("" ≠ "") || (none : Option String).isSome) = false from rfl, hplace]
  rfl

/-! ## A label that is too long when it is written -/

/-- Eight hundred ideographs, each 26 code points behind the one before. -/
def wideLabel : List Char := (List.range 800).map fun i => Normal.toChar (0x4E00 + 26 * i)

theorem map_toNat_wideLabel : wideLabel.map Char.toNat = (List.range 800).map fun i => 0x4E00 + 26 * i := by
  rw [wideLabel, List.map_map]
  refine List.map_congr_left fun i hi => Normal.toNat_toChar (Or.inl ?_)
  have := List.mem_range.mp hi
  omega

theorem ideographs_wideLabel : ∀ c ∈ wideLabel, IsIdeograph c := by
  intro c hc
  have hcode : c.toNat ∈ wideLabel.map Char.toNat := List.mem_map_of_mem hc
  rw [map_toNat_wideLabel, List.mem_map] at hcode
  obtain ⟨i, hi, hcode⟩ := hcode
  have := List.mem_range.mp hi
  exact ⟨by omega, by omega⟩

theorem length_encode_wideLabel : Domain.longestCode < (Punycode.encode wideLabel).length := by
  have hgap : (wideLabel.map Char.toNat).Pairwise fun a b => a + 25 < b := by
    rw [map_toNat_wideLabel, List.pairwise_map]
    exact List.pairwise_lt_range.imp fun hij => by omega
  have hfirst : ∀ c ∈ wideLabel, 128 + 25 ≤ c.toNat := fun c hc => Nat.le_trans (by decide) (ideographs_wideLabel c hc).1
  have hlength : wideLabel.length = 800 := by simp [wideLabel]
  have hlong := @Punycode.length_encode_ge 25 36 (by decide) _ hgap hfirst
  rw [hlength] at hlong
  exact Nat.lt_of_lt_of_le (by decide) hlong

theorem wideLabel_ne_nil : wideLabel ≠ [] := by simp [wideLabel]

theorem parseDomain_wideLabel : Host.parseDomain wideLabel = .ok (.name (inPunycode wideLabel)) :=
  parseDomain_ideographs ideographs_wideLabel wideLabel_ne_nil (by simp [wideLabel, Domain.longestLabel])

/-- It has a label that is too long to be read. -/
theorem not_short_wideLabel : ¬ Host.Short (.name (inPunycode wideLabel)) := by
  intro hshort
  have hlabels : Domain.labels (inPunycode wideLabel).toList = ["xn--".toList ++ Punycode.encode wideLabel] := by
    rw [toList_inPunycode]
    exact Domain.labels_of_not_mem (dot_not_mem_encode_ideographs ideographs_wideLabel wideLabel_ne_nil)
  refine Nat.not_lt.mpr (hshort (Punycode.encode wideLabel) ?_) length_encode_wideLabel
  rw [hlabels]
  exact List.mem_singleton_self _

end NumberRegistry.Url
