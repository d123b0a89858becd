/-
  NumberRegistry.Proofs.Net.Address — what the texts of addresses are made of.

  An IPv4 address is written in digits and dots (`Ipv4.mem_text`), an IPv6 address in
  letters, digits and at most eight colons (`Ipv6.mem_text`, `Ipv6.count_colon_text`); both
  are short.
-/
import NumberRegistry.Net.Address
import NumberRegistry.Proofs.Text.Decimal
import NumberRegistry.Proofs.Text.Parts

namespace NumberRegistry.Net

open Text

variable {c : Char}

/-! ## IPv4 -/

theorem Ipv4.mem_text {ip : Ipv4} (h : c ∈ ip.text.toList) : c = '.' ∨ c.isDigit = true := by
  rw [Ipv4.text, String.toList_intercalate] at h
  refine (mem_intercalate h).imp_right fun ⟨p, hp, hc⟩ => ?_
  simp only [List.map_map, List.mem_map] at hp
  obtain ⟨octet, -, rfl⟩ := hp
  exact Decimal.isDigit_of_mem_ofNat hc

theorem Ipv4.text_ne_nil (ip : Ipv4) : ip.text.toList ≠ [] := by
  rw [Ipv4.text, String.toList_intercalate]
  simp only [List.map_cons, List.intercalate_cons_cons]
  simp

theorem Ipv4.length_text_le (ip : Ipv4) : ip.text.toList.length ≤ 16 := by
  rw [Ipv4.text, String.toList_intercalate]
  refine length_intercalate_le '.' (k := 3) fun p hp => ?_
  simp only [List.map_map, List.mem_map] at hp
  obtain ⟨octet, -, rfl⟩ := hp
  exact Decimal.length_ofNat_le (by decide) (Nat.lt_of_lt_of_le octet.toNat_lt (by decide))

/-! ## IPv6 -/

theorem isAlphanum_of_mem_hex {n : Nat} (h : c ∈ Nat.toDigits 16 n) : c.isAlphanum = true := by
  have digits : ∀ m ∈ List.range 16, (Nat.digitChar m).isAlphanum = true := by decide
  induction n using Nat.strongRecOn with
  | ind n ih =>
    rw [Nat.toDigits_eq_if (by decide)] at h
    split at h
    · rename_i hn
      rw [List.mem_singleton.mp h]
      exact digits n (List.mem_range.mpr hn)
    · rename_i hn
      rcases List.mem_append.mp h with h | h
      · exact ih (n / 16) (by omega) h
      · rw [List.mem_singleton.mp h]
        exact digits _ (List.mem_range.mpr (by omega))

namespace Ipv6

/-- The texts of groups. -/
theorem mem_groups (gs : List UInt16) {p : List Char}
    (h : p ∈ (gs.map fun g => String.ofList (Nat.toDigits 16 g.toNat)).map String.toList) :
    (∀ c ∈ p, c.isAlphanum = true) ∧ p.length ≤ 4 := by
  simp only [List.map_map, List.mem_map, Function.comp_apply, String.toList_ofList] at h
  obtain ⟨g, -, rfl⟩ := h
  exact ⟨fun _ => isAlphanum_of_mem_hex, (Nat.length_toDigits_le_iff (by decide) (by decide)).mpr g.toNat_lt⟩

theorem mem_groupsText {gs : List UInt16} (h : c ∈ (groupsText gs).toList) : c = ':' ∨ c.isAlphanum = true := by
  rw [groupsText, String.toList_intercalate] at h
  exact (mem_intercalate h).imp_right fun ⟨_, hp, hc⟩ => (mem_groups gs hp).1 _ hc

theorem length_groupsText_le (gs : List UInt16) : (groupsText gs).toList.length ≤ 5 * gs.length := by
  rw [groupsText, String.toList_intercalate]
  have := length_intercalate_le ':' fun p hp => (mem_groups gs hp).2
  simpa using this

theorem count_colon_groupsText_le (gs : List UInt16) : (groupsText gs).toList.count ':' ≤ gs.length := by
  rw [groupsText, String.toList_intercalate]
  have := count_intercalate_le ':' fun p hp hc => absurd ((mem_groups gs hp).1 _ hc) (by decide)
  simpa using this

theorem zeroRun_le : ∀ gs : List UInt16, zeroRun gs ≤ gs.length
  | [] => Nat.le_refl _
  | g :: gs => by
    have := zeroRun_le gs
    rw [zeroRun, List.length_cons]
    split <;> omega

/-- A run of zeros ends where the groups end, or before. -/
theorem longestZeros_le (gs : List UInt16) : (longestZeros gs).1 + (longestZeros gs).2 ≤ gs.length := by
  suffices h : ∀ is : List Nat, (∀ i ∈ is, i < gs.length) → ∀ best : Nat × Nat, best.1 + best.2 ≤ gs.length →
      (is.foldl (fun best i => if best.2 < zeroRun (gs.drop i) then (i, zeroRun (gs.drop i)) else best) best).1 +
        (is.foldl (fun best i => if best.2 < zeroRun (gs.drop i) then (i, zeroRun (gs.drop i)) else best) best).2 ≤
        gs.length from
    h _ (fun i => List.mem_range.mp) (0, 0) (Nat.zero_le _)
  intro is
  induction is with
  | nil => intro _ best h; exact h
  | cons i is ih =>
    intro his best hbest
    refine ih (fun j hj => his j (List.mem_cons_of_mem _ hj)) _ ?_
    have hi := his i List.mem_cons_self
    have hrun := zeroRun_le (gs.drop i)
    rw [List.length_drop] at hrun
    dsimp only
    split
    · dsimp only; omega
    · exact hbest

theorem mem_text {ip : Ipv6} (h : c ∈ ip.text.toList) : c = ':' ∨ c.isAlphanum = true := by
  unfold text at h
  dsimp only at h
  split at h
  · simp only [String.toList_append, List.mem_append] at h
    rcases h with (h | h) | h
    · exact mem_groupsText h
    · exact Or.inl (by simpa using h)
    · exact mem_groupsText h
  · exact mem_groupsText h

/-- The colons at a run of zeros stand for two groups at least. -/
theorem count_colon_text_le (ip : Ipv6) : ip.text.toList.count ':' ≤ 8 := by
  have hlen := ip.length_eq
  have hzeros := longestZeros_le ip.groups
  unfold text
  dsimp only
  split
  · have hfront := count_colon_groupsText_le (ip.groups.take (longestZeros ip.groups).1)
    have hback := count_colon_groupsText_le (ip.groups.drop ((longestZeros ip.groups).1 + (longestZeros ip.groups).2))
    have htwo : "::".toList.count ':' = 2 := by decide
    rw [List.length_take] at hfront
    rw [List.length_drop] at hback
    rw [String.toList_append, String.toList_append, List.count_append, List.count_append, htwo]
    omega
  · exact Nat.le_trans (count_colon_groupsText_le _) (Nat.le_of_eq hlen)

theorem length_text_le (ip : Ipv6) : ip.text.toList.length ≤ 42 := by
  have hlen := ip.length_eq
  unfold text
  dsimp only
  split
  · have hfront := length_groupsText_le (ip.groups.take (longestZeros ip.groups).1)
    have hback := length_groupsText_le (ip.groups.drop ((longestZeros ip.groups).1 + (longestZeros ip.groups).2))
    have htwo : "::".toList.length = 2 := by decide
    rw [List.length_take] at hfront
    rw [List.length_drop] at hback
    rw [String.toList_append, String.toList_append, List.length_append, List.length_append, htwo]
    omega
  · have := length_groupsText_le ip.groups
    omega

end Ipv6

end NumberRegistry.Net
