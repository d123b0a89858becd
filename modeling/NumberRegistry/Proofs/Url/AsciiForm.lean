/-
  NumberRegistry.Proofs.Url.AsciiForm — the ASCII form of a name is its own ASCII form.

  A label in Unicode is `Settled` when neither mapping nor the normal form changes it.
  Every label the reader arrives at is (`settled_of_unicode?`), and from what is written
  for it the reader arrives at it again (`unicode?_asciiLabel`), if its Punycode is not
  longer than what is read. So a name in its ASCII form is read as it stands
  (`toAscii?_again`), or, with a label that is too long, not at all (`toAscii?_long`).
-/
import NumberRegistry.Proofs.Text.Utf8
import NumberRegistry.Proofs.Url.Domain
import NumberRegistry.Proofs.Url.DomainMapping

namespace NumberRegistry.Url.Domain

open Text

/-! ## Labels -/

theorem labels_cons {c : Char} (h : c ≠ '.') (cs : List Char) :
    labels (c :: cs) = match labels cs with
      | w :: ws => (c :: w) :: ws
      | [] => [[c]] := by
  refine (labels.eq_3 c cs h).trans ?_
  cases labels cs <;> rfl

theorem labels_of_not_mem {s : List Char} (h : '.' ∉ s) : labels s = [s] := by
  induction s with
  | nil => rfl
  | cons c s ih =>
    rw [List.mem_cons, not_or] at h
    rw [labels_cons (Ne.symm h.1), ih h.2]

theorem labels_append_dot {a : List Char} (h : '.' ∉ a) (b : List Char) : labels (a ++ '.' :: b) = a :: labels b := by
  induction a with
  | nil => rfl
  | cons c a ih =>
    rw [List.mem_cons, not_or] at h
    rw [List.cons_append, labels_cons (Ne.symm h.1), ih h.2]

/-- A text is one label, or a label and others behind a full stop. -/
theorem labels_cases (s : List Char) :
    ('.' ∉ s ∧ labels s = [s]) ∨ ∃ a b, '.' ∉ a ∧ s = a ++ '.' :: b ∧ labels s = a :: labels b := by
  by_cases h : '.' ∈ s
  · obtain ⟨a, b, rfl, ha⟩ := List.eq_append_cons_of_mem h
    exact Or.inr ⟨a, b, ha, rfl, labels_append_dot ha b⟩
  · exact Or.inl ⟨h, labels_of_not_mem h⟩

theorem labels_ne_nil (s : List Char) : labels s ≠ [] := by
  rcases labels_cases s with ⟨-, h⟩ | ⟨a, b, -, -, h⟩ <;> rw [h] <;> exact List.cons_ne_nil _ _

theorem labels_intercalate {parts : List (List Char)} (hne : parts ≠ []) (h : ∀ p ∈ parts, '.' ∉ p) :
    labels (['.'].intercalate parts) = parts := by
  induction parts with
  | nil => exact absurd rfl hne
  | cons p parts ih =>
    have hp : '.' ∉ p := h p List.mem_cons_self
    cases parts with
    | nil =>
      rw [List.intercalate_singleton]
      exact labels_of_not_mem hp
    | cons q parts =>
      rw [List.intercalate_cons_cons, List.append_assoc, List.singleton_append, labels_append_dot hp,
        ih (List.cons_ne_nil q parts) fun r hr => h r (List.mem_cons_of_mem p hr)]

theorem mem_labels {s l : List Char} (h : l ∈ labels s) : '.' ∉ l ∧ ∀ c ∈ l, c ∈ s := by
  induction hk : s.length using Nat.strongRecOn generalizing s with
  | _ k ih =>
    rcases labels_cases s with ⟨hs, hlabels⟩ | ⟨a, b, ha, rfl, hlabels⟩ <;> rw [hlabels] at h
    · rw [List.mem_singleton.mp h]
      exact ⟨hs, fun c hc => hc⟩
    · rcases List.mem_cons.mp h with rfl | h
      · exact ⟨ha, fun c hc => List.mem_append_left _ hc⟩
      · obtain ⟨hdot, hsub⟩ := ih b.length (by simp at hk; omega) h rfl
        exact ⟨hdot, fun c hc => List.mem_append_right a (List.mem_cons_of_mem '.' (hsub c hc))⟩

/-- The labels of a normal form are normal forms. -/
theorem nfc_labels {s : List Char} (hs : Normal.nfc s = s) : ∀ l ∈ labels s, Normal.nfc l = l := by
  induction hk : s.length using Nat.strongRecOn generalizing s with
  | _ k ih =>
    rcases labels_cases s with ⟨-, hlabels⟩ | ⟨a, b, ha, rfl, hlabels⟩ <;> rw [hlabels]
    · exact List.forall_mem_singleton.mpr hs
    · rw [Normal.nfc_append_dot] at hs
      have hfirst : Normal.nfc a = a := by
        have h := congrArg labels hs
        rw [labels_append_dot (Normal.dot_not_mem_nfc ha), labels_append_dot ha] at h
        exact (List.cons.inj h).1
      rw [hfirst] at hs
      have hrest : Normal.nfc b = b := (List.cons.inj (List.append_cancel_left hs)).2
      exact List.forall_mem_cons.mpr ⟨hfirst, ih b.length (by simp at hk; omega) hrest rfl⟩

/-! ## A label -/

/-- A label in Unicode that is read as it stands. -/
structure Settled (u : List Char) : Prop where
  stable : ∀ c ∈ u, Stable c
  whole : '.' ∉ u
  normal : Normal.nfc u = u
  read : isAscii u = true → unicode? u = some u

theorem settled_of_unicode? {l u : List Char} (hstable : ∀ c ∈ l, Stable c) (hdot : '.' ∉ l) (hnormal : Normal.nfc l = l)
    (h : unicode? l = some u) : Settled u := by
  have hl := h
  unfold unicode? at h
  split at h
  · rename_i code
    split at h
    · cases h
    · simp only [Option.bind_eq_bind, Option.bind_eq_some_iff] at h
      obtain ⟨s, hs, mapped, hmapped, h⟩ := h
      split at h
      · cases h
      · rename_i hok
        obtain rfl := Option.some.inj h
        simp only [Bool.or_eq_true, decide_eq_true_eq, not_or, not_not] at hok
        obtain ⟨⟨hascii, hsame⟩, hnfc⟩ := hok
        refine ⟨fun c hc => stable_mapped hmapped c (hsame ▸ hc), fun hmem => ?_, hnfc, fun h => absurd h hascii⟩
        rcases Punycode.mem_decode? hs '.' hmem with hmem | hlarge
        · exact hdot (by simp [hmem])
        · exact absurd hlarge (by decide)
  · split at h
    · cases h
    · obtain rfl := Option.some.inj h
      exact ⟨hstable, hdot, hnormal, fun _ => hl⟩

theorem flatten_singletons (s : List Char) : (s.map fun c => [c]).flatten = s := by
  rw [← List.flatMap_def]
  simp

/-- The ASCII form of a label stands for the label. -/
theorem unicode?_asciiLabel {u : List Char} (h : Settled u) (hshort : (Punycode.encode u).length ≤ longestCode) :
    unicode? (asciiLabel u) = some u := by
  by_cases hascii : isAscii u = true
  · rw [asciiLabel, if_pos hascii]
    exact h.read hascii
  · rw [asciiLabel, if_neg hascii]
    show unicode? ('x' :: 'n' :: '-' :: '-' :: Punycode.encode u) = some u
    rw [unicode?, if_neg (Nat.not_lt.mpr hshort), Punycode.decode?_encode]
    simp [mapM_stable h.stable, flatten_singletons, h.normal, hascii]

theorem plain_ascii {c : Char} (h : c = '-' ∨ c = '.' ∨ Punycode.IsDigit c) : c.toNat < 128 := by
  have all : ∀ d ∈ List.range 36, (Punycode.digitChar d).toNat < 128 := by decide
  rcases h with rfl | rfl | ⟨d, hd, rfl⟩
  · decide
  · decide
  · exact all d (List.mem_range.mpr hd)

theorem asciiLabel_ascii {u : List Char} : ∀ c ∈ asciiLabel u, c.toNat < 128 := by
  intro c hc
  unfold asciiLabel at hc
  split at hc
  · rename_i hascii
    exact of_decide_eq_true (List.all_eq_true.mp hascii c hc)
  · rcases List.mem_append.mp hc with hc | hc
    · exact plain_ascii (marker_plain c hc)
    · rcases Punycode.mem_encode hc with hc | hc | hc
      · exact hc.2
      · exact plain_ascii (Or.inl hc)
      · exact plain_ascii (Or.inr (Or.inr hc))

theorem dot_not_mem_asciiLabel {u : List Char} (h : Settled u) : '.' ∉ asciiLabel u := by
  have hplain : ¬ ('.' = '-' ∨ Punycode.IsDigit '.') := by
    have all : ∀ d ∈ List.range 36, Punycode.digitChar d ≠ '.' := by decide
    rintro (hc | ⟨d, hd, hc⟩)
    · exact absurd hc (by decide)
    · exact all d (List.mem_range.mpr hd) hc
  intro hc
  unfold asciiLabel at hc
  split at hc
  · exact h.whole hc
  · rcases List.mem_append.mp hc with hc | hc
    · exact absurd hc (by decide)
    · rcases Punycode.mem_encode hc with hc | hc | hc
      · exact h.whole hc.1
      · exact hplain (Or.inl hc)
      · exact hplain (Or.inr hc)

theorem stable_asciiLabel {u : List Char} (h : Settled u) : ∀ c ∈ asciiLabel u, Stable c := by
  intro c hc
  rcases mem_asciiLabel hc with hc | hc
  · exact h.stable c hc
  · exact stable_plain hc

/-! ## Names -/

/-- The labels that the reader arrives at, and what is written for them. -/
theorem toAscii?_settled {name : Utf8.Bytes} {domain : String} (h : toAscii? name = some domain) :
    ∃ us : List (List Char), us ≠ [] ∧ (∀ u ∈ us, Settled u) ∧
      (us.all labelAllowed && (!us.any (·.any isRightToLeft) || us.all directionAllowed)) = true ∧
      domain = ".".intercalate (us.map fun u => String.ofList (asciiLabel u)) := by
  unfold toAscii? at h
  simp only [Option.bind_eq_bind, Option.bind_eq_some_iff] at h
  obtain ⟨s, -, mapped, hmapped, us, hus, h⟩ := h
  have hread := mem_mapM hus
  split at h
  · rename_i hallowed
    refine ⟨us, fun hnil => ?_, fun u hu => ?_, hallowed, (Option.some.inj h).symm⟩
    · rw [hnil, List.length_nil] at hread
      exact labels_ne_nil _ (List.eq_nil_of_length_eq_zero hread.1.symm)
    · obtain ⟨l, hl, hu⟩ := hread.2 u hu
      obtain ⟨hdot, hsub⟩ := mem_labels hl
      exact settled_of_unicode? (fun c hc => stable_nfc (stable_mapped hmapped) c (hsub c hc)) hdot
        (nfc_labels (Normal.nfc_nfc _) l hl) hu
  · cases h

/-- Of a name of ASCII characters that mapping keeps only the labels are read. -/
theorem toAscii?_ascii {s : List Char} (hchars : ∀ c ∈ s, Stable c ∧ c.toNat < 128) :
    toAscii? (Utf8.encode s) = ((labels s).mapM unicode?).bind fun us =>
      if us.all labelAllowed && (!us.any (·.any isRightToLeft) || us.all directionAllowed) then
        some (".".intercalate (us.map fun u => String.ofList (asciiLabel u)))
      else none := by
  have hnormal : Normal.nfc s = s := by
    unfold Normal.nfc
    rw [if_pos]
    exact List.all_eq_true.mpr fun c hc => decide_eq_true (by have := (hchars c hc).2; omega)
  unfold toAscii?
  simp only [Utf8.decode?_encode, Except.toOption, Option.bind_eq_bind, Option.bind_some,
    mapM_stable fun c hc => (hchars c hc).1, flatten_singletons, hnormal]

theorem toAscii?_of_labels {s : List Char} {us : List (List Char)} (hchars : ∀ c ∈ s, Stable c ∧ c.toNat < 128)
    (hread : (labels s).mapM unicode? = some us)
    (hallowed : (us.all labelAllowed && (!us.any (·.any isRightToLeft) || us.all directionAllowed)) = true) :
    toAscii? (Utf8.encode s) = some (".".intercalate (us.map fun u => String.ofList (asciiLabel u))) := by
  rw [toAscii?_ascii hchars, hread, Option.bind_some, if_pos hallowed]

/-- The characters of a name in its ASCII form, and its labels. -/
theorem labels_toAscii? {name : Utf8.Bytes} {domain : String} (h : toAscii? name = some domain) :
    (∀ c ∈ domain.toList, Stable c ∧ c.toNat < 128) ∧
      ∃ us : List (List Char), (∀ u ∈ us, Settled u) ∧
        (us.all labelAllowed && (!us.any (·.any isRightToLeft) || us.all directionAllowed)) = true ∧
        domain = ".".intercalate (us.map fun u => String.ofList (asciiLabel u)) ∧ labels domain.toList = us.map asciiLabel := by
  obtain ⟨us, hne, hsettled, hallowed, hdomain⟩ := toAscii?_settled h
  have htext : domain.toList = ['.'].intercalate (us.map asciiLabel) := by
    rw [hdomain, String.toList_intercalate, List.map_map]
    congr 1
    exact List.map_congr_left fun u _ => String.toList_ofList
  have hparts : ∀ p ∈ us.map asciiLabel, '.' ∉ p ∧ ∀ c ∈ p, Stable c ∧ c.toNat < 128 := by
    intro p hp
    obtain ⟨u, hu, rfl⟩ := List.mem_map.mp hp
    exact ⟨dot_not_mem_asciiLabel (hsettled u hu), fun c hc => ⟨stable_asciiLabel (hsettled u hu) c hc, asciiLabel_ascii c hc⟩⟩
  refine ⟨fun c hc => ?_, us, hsettled, hallowed, hdomain, ?_⟩
  · rw [htext] at hc
    rcases mem_intercalate hc with rfl | ⟨p, hp, hc⟩
    · exact ⟨stable_plain (Or.inr (Or.inl rfl)), by decide⟩
    · exact (hparts p hp).2 c hc
  · rw [htext]
    exact labels_intercalate (by simpa using hne) fun p hp => (hparts p hp).1

/-- A name in its ASCII form is read as it stands, if none of its labels is too long. -/
theorem toAscii?_again {name : Utf8.Bytes} {domain : String} (h : toAscii? name = some domain)
    (hshort : ∀ code, "xn--".toList ++ code ∈ labels domain.toList → code.length ≤ longestCode) :
    toAscii? (Utf8.encode domain.toList) = some domain := by
  obtain ⟨hchars, us, hsettled, hallowed, hdomain, hlabels⟩ := labels_toAscii? h
  have hread : (us.map asciiLabel).mapM unicode? = some us := by
    refine mapM_map_of_forall fun u hu => ?_
    by_cases hascii : isAscii u = true
    · rw [asciiLabel, if_pos hascii]
      exact (hsettled u hu).read hascii
    · refine unicode?_asciiLabel (hsettled u hu) (hshort _ ?_)
      rw [hlabels, List.mem_map]
      exact ⟨u, hu, by rw [asciiLabel, if_neg hascii]⟩
  rw [← hlabels] at hread
  rw [toAscii?_of_labels hchars hread hallowed, ← hdomain]

/-- One that has a label that is too long is not read at all. -/
theorem toAscii?_long {name : Utf8.Bytes} {domain : String} (h : toAscii? name = some domain) {code : List Char}
    (hcode : "xn--".toList ++ code ∈ labels domain.toList) (hlong : longestCode < code.length) :
    toAscii? (Utf8.encode domain.toList) = none := by
  have hlabel : unicode? ("xn--".toList ++ code) = none := by
    show unicode? ('x' :: 'n' :: '-' :: '-' :: code) = none
    rw [unicode?, if_pos hlong]
  rw [toAscii?_ascii (labels_toAscii? h).1, mapM_none hcode hlabel, Option.bind_none]

end NumberRegistry.Url.Domain
