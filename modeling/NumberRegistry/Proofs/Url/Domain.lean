/-
  NumberRegistry.Proofs.Url.Domain — what the ASCII form of a domain name is made of.

  Each label is checked before it is written, and it is written as it is or in Punycode.
  What Punycode adds to the ASCII characters of a label are letters, digits and hyphens
  (`Punycode.mem_encode`). So no character that is forbidden in a host comes back in by the way a
  name is written (`toAscii?_allowed`).
-/
import NumberRegistry.Proofs.Url.Punycode
import NumberRegistry.Url.Domain

namespace NumberRegistry.Url

open Text

namespace Domain

variable {c : Char}

theorem forbidden_ascii (h : isForbidden c = true) : c.toNat < 128 := by
  have all : "%#/:<>?@[\\]^|".toList.all (·.toNat < 128) = true := by decide
  simp only [isForbidden, Bool.or_eq_true, decide_eq_true_eq, beq_iff_eq] at h
  rcases h with (h | h) | h
  · omega
  · omega
  · simpa using List.all_eq_true.mp all c (List.contains_iff_mem.mp h)

/-- Small letters, digits, hyphens and full stops may stand in a host. -/
theorem plain_allowed (h : c = '-' ∨ c = '.' ∨ Punycode.IsDigit c) : isForbidden c = false := by
  have all : ∀ d ∈ List.range 36, isForbidden (Punycode.digitChar d) = false := by decide +kernel
  rcases h with rfl | rfl | ⟨d, hd, rfl⟩
  · rfl
  · rfl
  · exact all d (List.mem_range.mpr hd)

theorem marker_plain : ∀ c ∈ ['x', 'n', '-', '-'], c = '-' ∨ c = '.' ∨ Punycode.IsDigit c := by
  intro c hc
  simp only [List.mem_cons, List.not_mem_nil, or_false] at hc
  rcases hc with rfl | rfl | rfl | rfl
  · exact Or.inr (Or.inr ⟨23, by decide, rfl⟩)
  · exact Or.inr (Or.inr ⟨13, by decide, rfl⟩)
  · exact Or.inl rfl
  · exact Or.inl rfl

/-- What is written for a label are its own characters and plain ones. -/
theorem mem_asciiLabel {s : List Char} (h : c ∈ asciiLabel s) : c ∈ s ∨ c = '-' ∨ c = '.' ∨ Punycode.IsDigit c := by
  unfold asciiLabel at h
  split at h
  · exact Or.inl h
  · rcases List.mem_append.mp h with h | h
    · exact Or.inr (marker_plain c h)
    · rcases Punycode.mem_encode h with h | h | h
      · exact Or.inl h.1
      · exact Or.inr (Or.inl h)
      · exact Or.inr (Or.inr (Or.inr h))

theorem asciiLabel_allowed {s : List Char} (h : labelAllowed s = true) (hc : c ∈ asciiLabel s) : isForbidden c = false := by
  have hs : ∀ d ∈ s, isForbidden d = false := by
    simp only [labelAllowed, Bool.and_eq_true, Bool.not_eq_true', List.any_eq_false] at h
    intro d hd
    simpa using h.1.2 d hd
  rcases mem_asciiLabel hc with hc | hc
  · exact hs c hc
  · exact plain_allowed hc

/-- The ASCII form of a name holds no forbidden character. -/
theorem toAscii?_allowed {name : Utf8.Bytes} {domain : String} (h : toAscii? name = some domain) (hc : c ∈ domain.toList) :
    isForbidden c = false := by
  unfold toAscii? at h
  simp only [Option.bind_eq_bind, Option.bind_eq_some_iff] at h
  obtain ⟨s, -, mapped, -, us, -, h⟩ := h
  split at h
  · rename_i hallowed
    cases h
    rw [Bool.and_eq_true, List.all_eq_true] at hallowed
    rw [String.toList_intercalate] at hc
    rcases mem_intercalate hc with hc | ⟨label, hlabel, hc⟩
    · exact plain_allowed (Or.inr (Or.inl hc))
    · simp only [List.map_map, List.mem_map, Function.comp_apply, String.toList_ofList] at hlabel
      obtain ⟨u, hu, rfl⟩ := hlabel
      exact asciiLabel_allowed (hallowed.1 u hu) hc
  · cases h

end Domain

end NumberRegistry.Url
