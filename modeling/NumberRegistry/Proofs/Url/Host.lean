/-
  NumberRegistry.Proofs.Url.Host — a host is read back from its text.

  A domain name is written in its ASCII form, which is read as it stands; an IPv4 address
  as four decimal octets, which are labels that nothing changes and numbers that fill the
  address again (`ipv4?_text`); an IPv6 address between brackets.
-/
import NumberRegistry.Proofs.Net.Ipv6
import NumberRegistry.Proofs.Url.AsciiForm
import NumberRegistry.Url.Host

namespace NumberRegistry.Url.Host

open Text Net

/-! ## Octets -/

theorem digit_cases {c : Char} (h : c.isDigit = true) : ∃ d < 10, c = Nat.digitChar d := by
  obtain ⟨hlt, heq⟩ := Decimal.digitChar_of_isDigit h
  exact ⟨_, hlt, heq.symm⟩

theorem isDigit_plain {c : Char} (h : c.isDigit = true) : Punycode.IsDigit c := by
  have all : ∀ d ∈ List.range 10, Punycode.digitChar (d + 26) = Nat.digitChar d := by decide
  obtain ⟨d, hd, rfl⟩ := digit_cases h
  exact ⟨d + 26, by omega, all d (List.mem_range.mpr hd)⟩

/-- Digits stand at the head of a label, and are in no direction. -/
theorem digit_allowed {c : Char} (h : c.isDigit = true) : combiningMarks.mem c = false ∧ Domain.isRightToLeft c = false := by
  have all : "0123456789".toList.all (fun c => !combiningMarks.mem c && !Domain.isRightToLeft c) = true := by decide +kernel
  have digits : ∀ d ∈ List.range 10, Nat.digitChar d ∈ "0123456789".toList := by decide
  obtain ⟨d, hd, rfl⟩ := digit_cases h
  simpa using List.all_eq_true.mp all _ (digits d (List.mem_range.mpr hd))

theorem joinersAllowed_of_ascii {s : List Char} (h : ∀ c ∈ s, c.toNat < 128) (before : List Char) :
    Domain.joinersAllowed before s = true := by
  induction s generalizing before with
  | nil => rfl
  | cons c s ih =>
    have hc : c ≠ '\u200C' ∧ c ≠ '\u200D' := by
      have := h c List.mem_cons_self
      constructor <;> rintro rfl <;> exact absurd this (by decide)
    rw [Domain.joinersAllowed, Domain.joinerAllowed, if_pos hc, ih fun d hd => h d (List.mem_cons_of_mem c hd)]
    rfl

section
variable {l : List Char} (h : Decimal.Digits l)
include h

theorem digits_ascii : ∀ c ∈ l, c.toNat < 128 :=
  fun c hc => Domain.plain_ascii (Or.inr (Or.inr (isDigit_plain (h.2 c hc))))

theorem dot_not_mem_digits : '.' ∉ l := fun hc => absurd (h.2 '.' hc) (by decide)

/-- Digits are a label that is read as it stands. -/
theorem unicode?_digits : Domain.unicode? l = some l := by
  have hascii : Domain.isAscii l = true := List.all_eq_true.mpr fun c hc => decide_eq_true (digits_ascii h c hc)
  unfold Domain.unicode?
  split
  · exact absurd (h.2 'x' List.mem_cons_self) (by decide)
  · simp [hascii]

theorem labelAllowed_digits : Domain.labelAllowed l = true := by
  have hforbidden : l.any Domain.isForbidden = false := by
    rw [List.any_eq_false]
    intro c hc
    simp [Domain.plain_allowed (Or.inr (Or.inr (isDigit_plain (h.2 c hc))))]
  have hhead : (l.head?.map combiningMarks.mem).getD false = false := by
    cases l with
    | nil => rfl
    | cons c l => exact (digit_allowed (h.2 c List.mem_cons_self)).1
  rw [Domain.labelAllowed, hforbidden, hhead, joinersAllowed_of_ascii (digits_ascii h)]
  rfl

theorem not_rightToLeft_digits : l.any Domain.isRightToLeft = false := by
  rw [List.any_eq_false]
  intro c hc
  simp [(digit_allowed (h.2 c hc)).2]

theorem asciiLabel_digits : Domain.asciiLabel l = l := by
  rw [Domain.asciiLabel, if_pos]
  exact List.all_eq_true.mpr fun c hc => decide_eq_true (digits_ascii h c hc)

theorem readRadix_digits : readRadix 10 l = some (Nat.ofDigitChars 10 l 0) := by
  have hdigit : ∀ c ∈ l, digitBelow 10 c = some (c.toNat - 48) := by
    have all : ∀ d ∈ List.range 10, digitBelow 10 (Nat.digitChar d) = some ((Nat.digitChar d).toNat - 48) := by decide
    intro c hc
    obtain ⟨d, hd, rfl⟩ := digit_cases (h.2 c hc)
    exact all d (List.mem_range.mpr hd)
  have hvalues : l.map Decimal.digit? = (l.map fun c => c.toNat - 48).map some := by
    rw [List.map_map]
    exact List.map_congr_left fun c hc => Decimal.digit?_of_isDigit (h.2 c hc)
  rw [readRadix, mapM_of_forall hdigit, Option.map_some, ofDigits_ten hvalues]

end

/-- The decimal text of a number is read as the number: no zero in front makes it octal. -/
theorem part?_ofNat (n : Nat) : part? (Decimal.ofNat n).toList = some n := by
  have hdigits := Decimal.digits_ofNat n
  have hvalue := readRadix_digits hdigits
  rw [Decimal.ofDigitChars_ofNat] at hvalue
  unfold part?
  split
  · rename_i hnil
    exact absurd hnil hdigits.1
  · rename_i ds htext
    exact absurd (hdigits.2 'x' (by simp [htext])) (by decide)
  · rename_i ds htext
    exact absurd (hdigits.2 'X' (by simp [htext])) (by decide)
  · rename_i d ds _ _ htext
    rcases Decimal.ofNat_leading htext with hzero | hnil
    · exact absurd rfl hzero
    · cases hnil
  · exact hvalue

/-! ## IPv4 -/

def octetTexts (ip : Ipv4) : List (List Char) := [ip.a, ip.b, ip.c, ip.d].map fun octet => (Decimal.ofNat octet.toNat).toList

theorem digits_octetTexts (ip : Ipv4) : ∀ l ∈ octetTexts ip, Decimal.Digits l := by
  intro l hl
  obtain ⟨octet, -, rfl⟩ := List.mem_map.mp hl
  exact Decimal.digits_ofNat octet.toNat

theorem text_octets (ip : Ipv4) : ip.text.toList = ['.'].intercalate (octetTexts ip) := by
  rw [Ipv4.text, String.toList_intercalate, List.map_map]
  rfl

theorem labels_ipv4 (ip : Ipv4) : Domain.labels ip.text.toList = octetTexts ip := by
  rw [text_octets]
  exact Domain.labels_intercalate (by simp [octetTexts]) fun l hl => dot_not_mem_digits (digits_octetTexts ip l hl)

theorem plain_ipv4 (ip : Ipv4) : ∀ c ∈ ip.text.toList, c = '-' ∨ c = '.' ∨ Punycode.IsDigit c := by
  intro c hc
  rw [text_octets] at hc
  rcases mem_intercalate hc with hc | ⟨l, hl, hc⟩
  · exact Or.inr (Or.inl hc)
  · exact Or.inr (Or.inr (isDigit_plain ((digits_octetTexts ip l hl).2 c hc)))

theorem toAscii?_ipv4 (ip : Ipv4) : Domain.toAscii? (Utf8.encode ip.text.toList) = some ip.text := by
  have hdigits := digits_octetTexts ip
  have hchars : ∀ c ∈ ip.text.toList, Domain.Stable c ∧ c.toNat < 128 :=
    fun c hc => ⟨Domain.stable_plain (plain_ipv4 ip c hc), Domain.plain_ascii (plain_ipv4 ip c hc)⟩
  have hread : (Domain.labels ip.text.toList).mapM Domain.unicode? = some (octetTexts ip) := by
    rw [labels_ipv4, mapM_of_forall fun l hl => unicode?_digits (hdigits l hl)]
    simp
  have hallowed : (octetTexts ip).all Domain.labelAllowed = true :=
    List.all_eq_true.mpr fun l hl => labelAllowed_digits (hdigits l hl)
  have hdirection : (octetTexts ip).any (·.any Domain.isRightToLeft) = false :=
    List.any_eq_false.mpr fun l hl => by simp [not_rightToLeft_digits (hdigits l hl)]
  rw [Domain.toAscii?_of_labels hchars hread (by rw [hallowed, hdirection]; rfl)]
  have htexts : (octetTexts ip).map (fun u => String.ofList (Domain.asciiLabel u)) =
      [ip.a, ip.b, ip.c, ip.d].map fun octet => Decimal.ofNat octet.toNat := by
    rw [octetTexts, List.map_map]
    refine List.map_congr_left fun octet _ => ?_
    show String.ofList (Domain.asciiLabel (Decimal.ofNat octet.toNat).toList) = Decimal.ofNat octet.toNat
    rw [asciiLabel_digits (Decimal.digits_ofNat _), String.ofList_toList]
  rw [htexts, Ipv4.text]

theorem parts_ipv4 (ip : Ipv4) : parts ip.text.toList = octetTexts ip := by
  have hlast : (octetTexts ip).getLast? ≠ some [] := by
    intro h
    exact (Decimal.digits_ofNat ip.d.toNat).1 (Option.some.inj h)
  unfold parts
  rw [labels_ipv4, if_neg fun h => hlast h.2]

theorem combine_octets (ip : Ipv4) : combine [ip.a.toNat, ip.b.toNat, ip.c.toNat] ip.d.toNat = some ip := by
  have ha := ip.a.toNat_lt
  have hb := ip.b.toNat_lt
  have hc := ip.c.toNat_lt
  have hd := ip.d.toNat_lt
  have hfront : [ip.a.toNat, ip.b.toNat, ip.c.toNat].any (255 < ·) = false := by
    simp only [List.any_cons, List.any_nil, Bool.or_false, Bool.or_eq_false_iff, decide_eq_false_iff_not]
    omega
  have hvalue : Reader.ofDigits 256 [ip.a.toNat, ip.b.toNat, ip.c.toNat] * 256 + ip.d.toNat =
      ip.a.toNat * 0x1000000 + ip.b.toNat * 0x10000 + ip.c.toNat * 0x100 + ip.d.toNat := by
    simp only [Reader.ofDigits, List.foldl_cons, List.foldl_nil]
    omega
  have hoctet {n : Nat} {octet : UInt8} (h : n % 256 = octet.toNat) : UInt8.ofNat n = octet := by
    refine UInt8.toNat_inj.mp ?_
    rw [UInt8.toNat_ofNat', h]
  unfold combine
  show (if 3 < 3 ∨ _ ∨ 256 ≤ ip.d.toNat then none else some (Ipv4.ofNat (_ * 256 + ip.d.toNat))) = some ip
  rw [hfront, if_neg (by simp; omega), hvalue, Ipv4.ofNat,
    hoctet (by omega : _ % 256 = ip.a.toNat), hoctet (by omega : _ % 256 = ip.b.toNat),
    hoctet (by omega : _ % 256 = ip.c.toNat), hoctet (by omega : _ % 256 = ip.d.toNat)]

/-- The text of an address is an address, and this one. -/
theorem ipv4?_text (ip : Ipv4) : ipv4? ip.text.toList = some ip := by
  have hread : (octetTexts ip).mapM part? = some ([ip.a, ip.b, ip.c, ip.d].map UInt8.toNat) := by
    rw [octetTexts, List.mapM_map]
    exact mapM_of_forall fun octet _ => part?_ofNat octet.toNat
  unfold ipv4?
  rw [parts_ipv4, hread]
  exact combine_octets ip

theorem endsInNumber_ipv4 (ip : Ipv4) : endsInNumber ip.text.toList = true := by
  unfold endsInNumber
  rw [parts_ipv4]
  show (_ || (part? (Decimal.ofNat ip.d.toNat).toList).isSome) = true
  rw [part?_ofNat, Option.isSome_some, Bool.or_true]

/-! ## Hosts -/

/-- The text of a host does not have a label in Punycode that is longer than what is read. -/
def Short : Host → Prop
  | .name domain => ∀ code, "xn--".toList ++ code ∈ Domain.labels domain.toList → code.length ≤ Domain.longestCode
  | .ipv4 _ => True
  | .ipv6 _ => True

theorem decode_plain {s : List Char} (h : '%' ∉ s) : Percent.decode s = Utf8.encode s := by
  induction s with
  | nil => rfl
  | cons c s ih =>
    rw [List.mem_cons, not_or] at h
    rw [Percent.decode_cons (Ne.symm h.1), ih h.2]
    rfl

theorem parseDomain_cons {c : Char} (h : c ≠ '[') (cs : List Char) :
    parseDomain (c :: cs) =
      match Domain.toAscii? (Percent.decode (c :: cs)) with
      | none => .error .domainName
      | some domain =>
        if domain = "" then .error .emptyHost
        else if endsInNumber domain.toList then
          match ipv4? domain.toList with
          | some ip => .ok (.ipv4 ip)
          | none => .error .ipv4Address
        else .ok (.name domain) := by
  unfold parseDomain
  split
  · rename_i heq
    exact absurd (List.cons.inj heq).1 h
  · rfl

/-- A text of which no character is changed is read as itself. -/
theorem parseDomain_ascii {text : String} (hne : text ≠ "") (hbracket : '[' ∉ text.toList) (hpercent : '%' ∉ text.toList)
    (h : Domain.toAscii? (Utf8.encode text.toList) = some text) :
    parseDomain text.toList =
      if endsInNumber text.toList then
        match ipv4? text.toList with
        | some ip => .ok (.ipv4 ip)
        | none => .error .ipv4Address
      else .ok (.name text) := by
  have hdecode := decode_plain hpercent
  cases htext : text.toList with
  | nil => exact absurd (String.toList_eq_nil_iff.mp htext) hne
  | cons c cs =>
    have hc : c ≠ '[' := fun hc => hbracket (by rw [htext, hc]; exact List.mem_cons_self)
    rw [parseDomain_cons hc, ← htext, hdecode, h]
    simp only [if_neg hne]

theorem bracketed_text {s : List Char} {host : Host} (h : bracketed s = .ok host) :
    ∃ ip, host = .ipv6 ip := by
  unfold bracketed at h
  split at h
  · split at h
    · exact ⟨_, (Except.ok.inj h).symm⟩
    · cases h
  · cases h

/-- What a host can be. -/
theorem parseDomain_cases {s : List Char} {host : Host} (h : parseDomain s = .ok host) :
    (∃ ip, host = .ipv6 ip) ∨ (∃ ip, host = .ipv4 ip) ∨
      ∃ domain, host = .name domain ∧ domain ≠ "" ∧ endsInNumber domain.toList = false ∧
        Domain.toAscii? (Percent.decode s) = some domain := by
  unfold parseDomain at h
  split at h
  · exact Or.inl (bracketed_text h)
  · split at h
    · cases h
    · rename_i domain hdomain
      split at h
      · cases h
      · rename_i hne
        split at h
        · split at h
          · exact Or.inr (Or.inl ⟨_, (Except.ok.inj h).symm⟩)
          · cases h
        · rename_i hnumber
          exact Or.inr (Or.inr ⟨domain, (Except.ok.inj h).symm, hne, by simpa using hnumber, hdomain⟩)

theorem parseDomain_ipv6 (ip : Ipv6) : parseDomain (Host.ipv6 ip).text.toList = .ok (.ipv6 ip) := by
  have htext : Host.text (.ipv6 ip) = "[" ++ ip.text ++ "]" := rfl
  rw [htext, String.toList_append, String.toList_append]
  show bracketed (ip.text.toList ++ [']']) = _
  unfold bracketed
  rw [List.getLast?_append, List.dropLast_concat, Ipv6.parse?_eq_some_iff.mpr (Ipv6.literal_text ip)]
  rfl

theorem parseDomain_ipv4 (ip : Ipv4) : parseDomain (Host.ipv4 ip).text.toList = .ok (.ipv4 ip) := by
  have hallowed {c : Char} (hc : c ∈ ip.text.toList) := Domain.plain_allowed (plain_ipv4 ip c hc)
  have hne : ip.text ≠ "" := by
    intro hempty
    have hnumber := endsInNumber_ipv4 ip
    rw [hempty] at hnumber
    exact absurd hnumber (by decide)
  show parseDomain ip.text.toList = _
  rw [parseDomain_ascii hne (fun hc => absurd (hallowed hc) (by decide)) (fun hc => absurd (hallowed hc) (by decide))
    (toAscii?_ipv4 ip), if_pos (endsInNumber_ipv4 ip), ipv4?_text]

/-- A host is read back from its text. -/
theorem parseDomain_text {s : List Char} {host : Host} (h : parseDomain s = .ok host) (hshort : Short host) :
    parseDomain host.text.toList = .ok host := by
  rcases parseDomain_cases h with ⟨ip, rfl⟩ | ⟨ip, rfl⟩ | ⟨domain, rfl, hne, hnumber, hdomain⟩
  · exact parseDomain_ipv6 ip
  · exact parseDomain_ipv4 ip
  · have hallowed {c : Char} (hc : c ∈ domain.toList) := Domain.toAscii?_allowed hdomain hc
    show parseDomain domain.toList = _
    rw [parseDomain_ascii hne (fun hc => absurd (hallowed hc) (by decide)) (fun hc => absurd (hallowed hc) (by decide))
      (Domain.toAscii?_again hdomain hshort), hnumber, if_neg (by decide)]

/-- One with a label that is too long is refused. -/
theorem parseDomain_long {s : List Char} {host : Host} (h : parseDomain s = .ok host) (hlong : ¬ Short host) :
    parseDomain host.text.toList = .error .domainName := by
  rcases parseDomain_cases h with ⟨ip, rfl⟩ | ⟨ip, rfl⟩ | ⟨domain, rfl, hne, -, hdomain⟩
  · exact absurd trivial hlong
  · exact absurd trivial hlong
  · have hallowed {c : Char} (hc : c ∈ domain.toList) := Domain.toAscii?_allowed hdomain hc
    have hnone : Domain.toAscii? (Utf8.encode domain.toList) = none := by
      simp only [Short, Classical.not_forall, Nat.not_le] at hlong
      obtain ⟨code, hcode, hlength⟩ := hlong
      exact Domain.toAscii?_long hdomain hcode hlength
    have hdecode := decode_plain fun hc => absurd (hallowed hc) (by decide)
    show parseDomain domain.toList = _
    cases htext : domain.toList with
    | nil => exact absurd (String.toList_eq_nil_iff.mp htext) hne
    | cons c cs =>
      have hc : c ≠ '[' := by
        rintro rfl
        exact absurd (hallowed (htext ▸ List.mem_cons_self)) (by decide)
      rw [parseDomain_cons hc, ← htext, hdecode, hnone]

end NumberRegistry.Url.Host
