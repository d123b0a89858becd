/-
  NumberRegistry.Proofs.Url.DomainMapping — mapping the characters of a domain name.

  What a character is mapped to is mapped to itself (`stable_of_map?`), and so is
  everything the normal form makes of such characters (`stable_nfc`). Both are
  found by going over the tables: the code points that are kept are collected as the bits
  of a number, and then each run and each entry is looked at (`mappingOk`).
-/
import NumberRegistry.Proofs.Text.Normal
import NumberRegistry.Proofs.Url.Punycode
import NumberRegistry.Url.Domain

namespace NumberRegistry.Url.Domain

open Text Normal

/-- The character is mapped to itself. -/
def Stable (c : Char) : Prop := map? c = some [c]

/-! ## The tables -/

/-- The code points of a run that are mapped to themselves. -/
def spanKept (s : Span) : Nat :=
  match s.label with
  | ['V'] => ones s.start s.length
  | ['A'] => bits (((List.range s.length).filter (· % 2 == 1)).map (s.start + ·))
  | _ => 0

def kept (ss : List Span) : Nat := ss.foldl (fun set s => set ||| spanKept s) 0

def includes (set start length : Nat) : Bool := set &&& ones start length == ones start length

/-- What the code points of a run are mapped to is in `set`. -/
def spanOk (set : Nat) (s : Span) : Bool :=
  match s.label with
  | ['A'] => s.length % 2 == 0
  | 'P' :: n => includes set (s.start + number36 n) s.length
  | 'N' :: n => number36 n ≤ s.start && includes set (s.start - number36 n) s.length
  | 'T' :: ns => (numbers ns).all set.testBit
  | _ => true

/-- An entry hands down to its parts what it is, and gets it from them if it composes. -/
def entryClosed (set : Nat) (e : Entry) : Bool :=
  if set.testBit e.char then e.parts.all set.testBit else !(e.composes && e.parts.all set.testBit)

/-- The set holds hyphen, full stop, digits and small letters, the Hangul characters, the
    ideographs, and nothing that is no character; and runs and entries keep to it. -/
def closed (set : Nat) (ss : List Span) (es : List Entry) : Bool :=
  includes set 0x2D 2 && includes set 0x30 10 && includes set 0x61 26 && includes set 0x1100 0x13 &&
    includes set 0x1161 0x15 && includes set 0x11A8 0x1B && includes set 0xAC00 0x2BA4 && includes set 0x4E00 0x5200 &&
    set &&& ones 0xD800 0x800 == 0 && set >>> 0x110000 == 0 && ss.all (spanOk set) && es.all (entryClosed set)

def mappingOk (mapping table : Labels) : Bool :=
  closed (kept (mapping.spans 0)) (mapping.spans 0) (entriesFrom 0 table)

set_option maxRecDepth 4000 in
theorem domainMapping_ok : mappingOk domainMapping decompositions = true := by
  have h : ∃ lines texts lines' texts', domainMapping = Labels.ofLines lines ∧ Labels.Spelt lines texts ∧
      decompositions = Labels.ofLines lines' ∧ Labels.Spelt lines' texts' ∧
      mappingOk (Labels.ofTexts texts) (Labels.ofTexts texts') = true :=
    ⟨_, _, _, _, rfl, by repeat constructor, rfl, by repeat constructor, by decide +kernel⟩
  obtain ⟨lines, texts, lines', texts', hlines, hspelt, hlines', hspelt', hok⟩ := h
  rw [hlines, hspelt.ofLines, hlines', hspelt'.ofLines]
  exact hok

/-! ## What the tables say -/

theorem testBit_kept {ss : List Span} {n : Nat} : (kept ss).testBit n = true ↔ ∃ s ∈ ss, (spanKept s).testBit n = true := by
  have hfold (set : Nat) : (ss.foldl (fun set s => set ||| spanKept s) set).testBit n = true ↔
      set.testBit n = true ∨ ∃ s ∈ ss, (spanKept s).testBit n = true := by
    induction ss generalizing set with
    | nil => simp
    | cons s ss ih => simp [ih, or_assoc]
  unfold kept
  rw [hfold, Nat.zero_testBit]
  simp

theorem testBit_of_includes {set start length n : Nat} (h : includes set start length = true) (hlow : start ≤ n)
    (hhigh : n < start + length) : set.testBit n = true := by
  refine testBit_of_subset (beq_iff_eq.mp h) ?_
  rw [testBit_ones, decide_eq_true_eq]
  exact ⟨hlow, hhigh⟩

/-- The code points that are mapped to themselves. -/
def keptPoints : Nat := kept (domainMapping.spans 0)

/-- What was checked. -/
structure MappingSound : Prop where
  mark : includes keptPoints 0x2D 2 = true
  digit : includes keptPoints 0x30 10 = true
  small : includes keptPoints 0x61 26 = true
  leading : includes keptPoints 0x1100 0x13 = true
  vowel : includes keptPoints 0x1161 0x15 = true
  trailing : includes keptPoints 0x11A8 0x1B = true
  syllable : includes keptPoints 0xAC00 0x2BA4 = true
  ideograph : includes keptPoints 0x4E00 0x5200 = true
  surrogate : keptPoints &&& ones 0xD800 0x800 = 0
  last : keptPoints >>> 0x110000 = 0
  span : ∀ s ∈ domainMapping.spans 0, spanOk keptPoints s = true
  entry : ∀ e ∈ entries, entryClosed keptPoints e = true

theorem mapping_sound : MappingSound := by
  have hok : closed keptPoints (domainMapping.spans 0) entries = true := domainMapping_ok
  simp only [closed, Bool.and_eq_true, List.all_eq_true, beq_iff_eq] at hok
  obtain ⟨⟨⟨⟨⟨⟨⟨⟨⟨⟨⟨h1, h2⟩, h3⟩, h4⟩, h5⟩, h6⟩, h7⟩, h8⟩, h9⟩, h10⟩, h11⟩, h12⟩ := hok
  exact ⟨h1, h2, h3, h4, h5, h6, h7, h8, h9, h10, h11, h12⟩

theorem valid_of_kept {n : Nat} (h : keptPoints.testBit n = true) : n.isValidChar := by
  have hsurrogate : ¬ (0xD800 ≤ n ∧ n < 0xD800 + 0x800) := by
    intro hn
    have hbit : (keptPoints &&& ones 0xD800 0x800).testBit n = true := by
      rw [Nat.testBit_and, h, testBit_ones, Bool.true_and, decide_eq_true_eq]
      exact hn
    rw [mapping_sound.surrogate, Nat.zero_testBit] at hbit
    cases hbit
  have hlast : n < 0x110000 := by
    by_cases hn : n < 0x110000
    · exact hn
    · have hbit : (keptPoints >>> 0x110000).testBit (n - 0x110000) = true := by
        rw [Nat.testBit_shiftRight, Nat.add_sub_cancel' (by omega)]
        exact h
      rw [mapping_sound.last, Nat.zero_testBit] at hbit
      cases hbit
  unfold Nat.isValidChar
  omega

theorem find?_span {s : Span} (hs : s ∈ domainMapping.spans 0) {i : Nat} (hi : i < s.length) :
    domainMapping.find? (s.start + i) = some (s.label, i) := (Labels.find?_span hs hi).2

/-- The code points collected are those of characters that are mapped to themselves. -/
theorem stable_of_kept {n : Nat} (h : keptPoints.testBit n = true) : Stable (toChar n) := by
  have hn := toNat_toChar (valid_of_kept h)
  obtain ⟨s, hs, hbit⟩ := testBit_kept.mp h
  unfold Stable map?
  rw [hn]
  unfold spanKept at hbit
  split at hbit
  · rename_i hlabel
    rw [testBit_ones, decide_eq_true_eq] at hbit
    have hfind := find?_span hs (i := n - s.start) (by omega)
    rw [Nat.add_sub_cancel' hbit.1, hlabel] at hfind
    simp only [hfind]
  · rename_i hlabel
    rw [testBit_bits, decide_eq_true_eq, List.mem_map] at hbit
    obtain ⟨i, hi, rfl⟩ := hbit
    rw [List.mem_filter, List.mem_range, beq_iff_eq] at hi
    have hfind := find?_span hs hi.1
    rw [hlabel] at hfind
    rw [hfind]
    simp only [hi.2, Nat.sub_self, Nat.add_zero]
    rfl
  · rw [Nat.zero_testBit] at hbit
    cases hbit

theorem kept_of_span {s : Span} (hs : s ∈ domainMapping.spans 0) {n : Nat} (h : (spanKept s).testBit n = true) :
    keptPoints.testBit n = true := testBit_kept.mpr ⟨s, hs, h⟩

theorem spanOk_up {set : Nat} {s : Span} {n : List Char} (h : s.label = 'P' :: n) :
    spanOk set s = includes set (s.start + number36 n) s.length := by
  unfold spanOk
  rw [h]
  cases n <;> rfl

-- From here on nothing looks into the tables.
attribute [local irreducible] keptPoints domainMapping

/-! ## What characters are mapped to -/

theorem toChar_kept {n : Nat} (h : keptPoints.testBit n = true) : keptPoints.testBit (toChar n).toNat = true := by
  rw [toNat_toChar (valid_of_kept h)]
  exact h

/-- What a character is mapped to is among the code points collected. -/
theorem kept_of_map? {c d : Char} {ds : List Char} (h : map? c = some ds) (hd : d ∈ ds) : keptPoints.testBit d.toNat = true := by
  unfold map? at h
  cases hfind : domainMapping.find? c.toNat with
  | none =>
    rw [hfind] at h
    cases h
  | some run =>
    obtain ⟨label, i⟩ := run
    obtain ⟨s, hs, rfl, hstart, hi⟩ := Labels.exists_span 0 hfind
    have hok := mapping_sound.span s hs
    rw [Nat.zero_add] at hstart
    rw [hfind] at h
    split at h
    · rename_i heq
      obtain ⟨hlabel, rfl⟩ := Prod.mk.inj (Option.some.inj heq)
      obtain rfl := Option.some.inj h
      rw [List.mem_singleton.mp hd]
      refine kept_of_span hs ?_
      unfold spanKept
      rw [hlabel]
      simp only [testBit_ones, decide_eq_true_eq]
      omega
    · obtain rfl := Option.some.inj h
      cases hd
    · -- The run has an even length, so the code point behind one that moves is in it too.
      rename_i heq
      obtain ⟨hlabel, rfl⟩ := Prod.mk.inj (Option.some.inj heq)
      rw [spanOk, hlabel] at hok
      have hlength : s.length % 2 = 0 := beq_iff_eq.mp hok
      obtain rfl := Option.some.inj h
      rw [List.mem_singleton.mp hd]
      refine toChar_kept (kept_of_span hs ?_)
      unfold spanKept
      rw [hlabel]
      simp only [testBit_bits, decide_eq_true_eq, List.mem_map, List.mem_filter, List.mem_range, beq_iff_eq]
      exact ⟨i + (1 - i % 2), ⟨by omega, by omega⟩, by omega⟩
    · rename_i n _ heq
      obtain ⟨hlabel, rfl⟩ := Prod.mk.inj (Option.some.inj heq)
      rw [spanOk_up hlabel] at hok
      obtain rfl := Option.some.inj h
      rw [List.mem_singleton.mp hd]
      exact toChar_kept (testBit_of_includes hok (by omega) (by omega))
    · rename_i n _ heq
      obtain ⟨hlabel, rfl⟩ := Prod.mk.inj (Option.some.inj heq)
      rw [spanOk, hlabel] at hok
      obtain rfl := Option.some.inj h
      rw [List.mem_singleton.mp hd]
      simp only [Bool.and_eq_true, decide_eq_true_eq] at hok
      exact toChar_kept (testBit_of_includes hok.2 (by omega) (by omega))
    · rename_i ns _ heq
      obtain ⟨hlabel, rfl⟩ := Prod.mk.inj (Option.some.inj heq)
      rw [spanOk, hlabel] at hok
      obtain rfl := Option.some.inj h
      obtain ⟨n, hn, rfl⟩ := List.mem_map.mp hd
      exact toChar_kept (List.all_eq_true.mp hok n hn)
    · cases h

/-- Those are the code points of the characters that are mapped to themselves. -/
theorem kept_iff {c : Char} : keptPoints.testBit c.toNat = true ↔ Stable c := by
  constructor
  · intro h
    have hstable := stable_of_kept h
    rwa [toChar, Char.ofNat_toNat] at hstable
  · exact fun h => kept_of_map? h List.mem_cons_self

/-- What a character is mapped to is mapped to itself. -/
theorem stable_of_map? {c d : Char} {ds : List Char} (h : map? c = some ds) (hd : d ∈ ds) : Stable d :=
  kept_iff.mp (kept_of_map? h hd)

theorem stable_plain {c : Char} (h : c = '-' ∨ c = '.' ∨ Punycode.IsDigit c) : Stable c := by
  have hsound := mapping_sound
  refine kept_iff.mp ?_
  rcases h with rfl | rfl | ⟨d, hd, rfl⟩
  · exact testBit_of_includes hsound.mark (by decide) (by decide)
  · exact testBit_of_includes hsound.mark (by decide) (by decide)
  · have all : ∀ d ∈ List.range 36, 0x30 ≤ (Punycode.digitChar d).toNat ∧ (Punycode.digitChar d).toNat < 0x30 + 10 ∨
        0x61 ≤ (Punycode.digitChar d).toNat ∧ (Punycode.digitChar d).toNat < 0x61 + 26 := by decide
    rcases all d (List.mem_range.mpr hd) with hrange | hrange
    · exact testBit_of_includes hsound.digit hrange.1 hrange.2
    · exact testBit_of_includes hsound.small hrange.1 hrange.2

/-- So mapping a second time changes nothing. -/
theorem mapM_stable {s : List Char} (h : ∀ c ∈ s, Stable c) : s.mapM map? = some (s.map fun c => [c]) :=
  mapM_of_forall h

theorem stable_mapped {s : List Char} {mapped : List (List Char)} (h : s.mapM map? = some mapped) :
    ∀ c ∈ mapped.flatten, Stable c := by
  intro c hc
  obtain ⟨ds, hds, hc⟩ := List.mem_flatten.mp hc
  obtain ⟨d, -, hmap⟩ := (mem_mapM h).2 ds hds
  exact stable_of_map? hmap hc

/-! ## Normal forms of mapped texts -/

theorem hereditary_kept : Hereditary fun n => keptPoints.testBit n = true := by
  have hsound := mapping_sound
  refine ⟨fun e he hkept n hn => ?_, fun e he hcomposes hparts => ?_, fun n hn => ?_, fun n hn => ?_⟩
  · have hclosed := hsound.entry e he
    rw [entryClosed, if_pos hkept] at hclosed
    exact List.all_eq_true.mp hclosed n hn
  · have hclosed := hsound.entry e he
    unfold entryClosed at hclosed
    split at hclosed
    · assumption
    · rw [hcomposes, List.all_eq_true.mpr hparts] at hclosed
      cases hclosed
  · rcases hn with hn | hn | hn
    · exact testBit_of_includes hsound.leading (by omega) (by omega)
    · exact testBit_of_includes hsound.vowel (by omega) (by omega)
    · exact testBit_of_includes hsound.trailing (by omega) (by omega)
  · simp only [isSyllable, Bool.and_eq_true, decide_eq_true_eq] at hn
    exact testBit_of_includes hsound.syllable (by omega) (by omega)

/-- The normal form of a mapped text is mapped to itself. -/
theorem stable_nfc {s : List Char} (h : ∀ c ∈ s, Stable c) : ∀ c ∈ nfc s, Stable c :=
  fun c hc => kept_iff.mp (mem_nfc hereditary_kept (fun d hd => kept_iff.mpr (h d hd)) c hc)

end NumberRegistry.Url.Domain
