/-
  NumberRegistry.Proofs.Net.Ipv4 — which texts are IPv4 addresses.

  Readers take digits off the front of a text as far as they go (`spanDigits_eq_iff`). A
  number may have leading zeros (`number_eq_some_iff`); an octet may not, so it has one
  text, which is its decimal (`octet_eq_some_iff`), and so has an address
  (`ipv4_eq_some_iff`). What keeps a reader from going on is that no digit is behind
  (`EndsDigits`).
-/
import Mathlib.Data.List.Induction
import NumberRegistry.Net.SocketAddress
import NumberRegistry.Proofs.Net.Address

namespace NumberRegistry.Net

open Text

variable {c : Char} {s rest : List Char}

/-! ## Digits -/

/-- Text that does not begin with a digit. -/
def EndsDigits (digit : Char → Option Nat) (rest : List Char) : Prop := ∀ c ∈ rest.head?, digit c = none

theorem spanDigits_sound (digit : Char → Option Nat) (s : List Char) :
    ∃ cs, s = cs ++ (Reader.spanDigits digit s).2 ∧ cs.map digit = (Reader.spanDigits digit s).1.map some ∧
      EndsDigits digit (Reader.spanDigits digit s).2 := by
  induction s with
  | nil => exact ⟨[], rfl, rfl, nofun⟩
  | cons c s ih =>
    rw [Reader.spanDigits]
    cases hc : digit c with
    | none => exact ⟨[], rfl, rfl, by rintro d ⟨⟩; exact hc⟩
    | some d =>
      obtain ⟨cs, hs, hds, hend⟩ := ih
      refine ⟨c :: cs, ?_, ?_, hend⟩
      · rw [List.cons_append, ← hs]
      · rw [List.map_cons, hc, hds, List.map_cons]

theorem spanDigits_complete {digit : Char → Option Nat} {cs : List Char} {ds : List Nat}
    (hds : cs.map digit = ds.map some) (hend : EndsDigits digit rest) :
    Reader.spanDigits digit (cs ++ rest) = (ds, rest) := by
  induction cs generalizing ds with
  | nil =>
    obtain rfl : ds = [] := List.map_eq_nil_iff.mp hds.symm
    cases rest with
    | nil => rfl
    | cons c rest =>
      have hc : digit c = none := hend c rfl
      rw [List.nil_append, Reader.spanDigits, hc]
  | cons c cs ih =>
    cases ds with
    | nil => cases hds
    | cons d ds =>
      obtain ⟨hc, htail⟩ := List.cons.inj hds
      rw [List.cons_append, Reader.spanDigits, hc, ih htail]

/-- Digits are taken as far as they go. -/
theorem spanDigits_eq_iff {digit : Char → Option Nat} {ds : List Nat} :
    Reader.spanDigits digit s = (ds, rest) ↔
      ∃ cs, s = cs ++ rest ∧ cs.map digit = ds.map some ∧ EndsDigits digit rest := by
  constructor
  · intro h
    have hsound := spanDigits_sound digit s
    rwa [h] at hsound
  · rintro ⟨cs, rfl, hds, hend⟩
    exact spanDigits_complete hds hend

/-- The digits of a decimal number, and their values. -/
theorem map_digit?_iff {cs : List Char} : (∃ ds : List Nat, cs.map Decimal.digit? = ds.map some) ↔ ∀ c ∈ cs, c.isDigit = true := by
  induction cs with
  | nil => exact ⟨fun _ => nofun, fun _ => ⟨[], rfl⟩⟩
  | cons c cs ih =>
    rw [List.forall_mem_cons, ← ih]
    constructor
    · rintro ⟨_ | ⟨d, ds⟩, h⟩
      · cases h
      · obtain ⟨hc, hcs⟩ := List.cons.inj h
        exact ⟨(Decimal.isDigit_of_digit? hc).1, ds, hcs⟩
    · rintro ⟨hc, ds, hcs⟩
      exact ⟨(c.toNat - 48) :: ds, by rw [List.map_cons, Decimal.digit?_of_isDigit hc, hcs, List.map_cons]⟩

theorem ofDigits_ten {cs : List Char} {ds : List Nat} (h : cs.map Decimal.digit? = ds.map some) :
    Reader.ofDigits 10 ds = Nat.ofDigitChars 10 cs 0 := by
  unfold Reader.ofDigits Nat.ofDigitChars
  generalize 0 = acc
  induction cs generalizing ds acc with
  | nil =>
    rw [List.map_nil] at h
    rw [List.map_eq_nil_iff.mp h.symm]
    rfl
  | cons c cs ih =>
    cases ds with
    | nil => cases h
    | cons d ds =>
      obtain ⟨hc, hcs⟩ := List.cons.inj h
      obtain ⟨-, rfl⟩ := Decimal.isDigit_of_digit? hc
      rw [List.foldl_cons, List.foldl_cons, ih hcs, Nat.mul_comm]
      rfl

namespace Reader

/-! ## Numbers and octets -/

theorem char_eq_some_iff : Reader.char c s = some ((), rest) ↔ s = c :: rest := by
  cases s with
  | nil => exact ⟨nofun, nofun⟩
  | cons d s =>
    unfold Reader.char
    by_cases h : d = c
    · subst h
      simp
    · simp [h]

theorem digits_of_map {cs : List Char} {ds : List Nat} (h : cs.map Decimal.digit? = ds.map some) (hne : ds ≠ []) :
    Decimal.Digits cs := by
  refine ⟨fun hcs => hne ?_, map_digit?_iff.mp ⟨ds, h⟩⟩
  rw [hcs, List.map_nil] at h
  exact List.map_eq_nil_iff.mp h.symm

/-- Digits are read as a number of their own, leading zeros and all. -/
theorem number_eq_some_iff {max n : Nat} : number max s = some (n, rest) ↔
    ∃ cs, s = cs ++ rest ∧ Decimal.Digits cs ∧ Nat.ofDigitChars 10 cs 0 = n ∧ n ≤ max ∧ EndsDigits Decimal.digit? rest := by
  unfold number
  dsimp only
  obtain ⟨cs, hs, hds, hend⟩ := spanDigits_sound Decimal.digit? s
  constructor
  · intro h
    split at h
    · cases h
    · rename_i hok
      rw [not_or, Nat.not_lt] at hok
      obtain ⟨hn, hrest⟩ := Prod.mk.inj (Option.some.inj h)
      rw [hrest] at hs hend
      rw [ofDigits_ten hds] at hn hok
      exact ⟨cs, hs, digits_of_map hds hok.1, hn, hn ▸ hok.2, hend⟩
  · rintro ⟨cs', hs', hdigits, hn, hmax, hend'⟩
    obtain ⟨ds', hds'⟩ := map_digit?_iff.mpr hdigits.2
    have hspan := spanDigits_eq_iff.mpr ⟨cs', hs', hds', hend'⟩
    rw [hspan]
    have hne : ds' ≠ [] := by
      rintro rfl
      exact hdigits.1 (List.map_eq_nil_iff.mp hds')
    rw [ofDigits_ten hds', hn, if_neg (not_or.mpr ⟨hne, Nat.not_lt.mpr hmax⟩)]

theorem length_of_map {digit : Char → Option Nat} {cs : List Char} {ds : List Nat} (h : cs.map digit = ds.map some) :
    cs.length = ds.length := by
  have hlength := congrArg List.length h
  rwa [List.length_map, List.length_map] at hlength

/-- A zero in front of the digits is one in front of their values. -/
theorem head_zero_iff {cs : List Char} {ds : List Nat} (h : cs.map Decimal.digit? = ds.map some) :
    cs.head? = some '0' ↔ ds.head? = some 0 := by
  cases cs with
  | nil =>
    rw [List.map_eq_nil_iff.mp h.symm]
    exact ⟨nofun, nofun⟩
  | cons c cs =>
    cases ds with
    | nil => cases h
    | cons d ds =>
      obtain ⟨hdigit, rfl⟩ := Decimal.isDigit_of_digit? (List.cons.inj h).1
      rw [List.head?_cons, List.head?_cons, Option.some.injEq, Option.some.injEq]
      constructor
      · rintro rfl
        rfl
      · intro hzero
        have hchar := (Decimal.digitChar_of_isDigit hdigit).2
        rw [hzero] at hchar
        rw [← hchar]
        rfl

theorem octet_sound {n : UInt8} (h : octet s = some (n, rest)) :
    s = (Decimal.ofNat n.toNat).toList ++ rest ∧ EndsDigits Decimal.digit? rest := by
  obtain ⟨cs, hs, hds, hend⟩ := spanDigits_sound Decimal.digit? s
  unfold octet at h
  dsimp only at h
  split at h
  · cases h
  · rename_i hok
    simp only [not_or, Nat.not_lt, not_and] at hok
    obtain ⟨hne, -, hzero, hmax⟩ := hok
    obtain ⟨hn, hrest⟩ := Prod.mk.inj (Option.some.inj h)
    rw [hrest] at hs hend
    rw [ofDigits_ten hds] at hn hmax
    have hdigits := digits_of_map hds hne
    have hlead : cs.head? = some '0' → cs.length = 1 := by
      intro hhead
      have hpos := List.length_pos_iff.mpr hdigits.1
      have hshort := hzero ((head_zero_iff hds).mp hhead)
      have hlength := length_of_map hds
      omega
    have hvalue : n.toNat = Nat.ofDigitChars 10 cs 0 := by
      rw [← hn, UInt8.toNat_ofNat_of_lt' (Nat.lt_of_le_of_lt hmax (by decide))]
    rw [hvalue, Decimal.ofNat_ofDigitChars hdigits hlead]
    exact ⟨hs, hend⟩

theorem octet_complete (n : UInt8) (hend : EndsDigits Decimal.digit? rest) :
    octet ((Decimal.ofNat n.toNat).toList ++ rest) = some (n, rest) := by
  have hdigits := Decimal.digits_ofNat n.toNat
  obtain ⟨ds, hds⟩ := map_digit?_iff.mpr hdigits.2
  have hlength := length_of_map hds
  have hshort : (Decimal.ofNat n.toNat).toList.length ≤ 3 :=
    Decimal.length_ofNat_le (by decide) (Nat.lt_of_lt_of_le n.toNat_lt (by decide))
  have hne : ds ≠ [] := by
    rintro rfl
    exact hdigits.1 (List.map_eq_nil_iff.mp hds)
  have hlead : ¬ (ds.head? = some 0 ∧ 1 < ds.length) := by
    rintro ⟨hhead, hlong⟩
    obtain ⟨cs, htext⟩ := List.head?_eq_some_iff.mp ((head_zero_iff hds).mpr hhead)
    rcases Decimal.ofNat_leading htext with hc | rfl
    · exact hc rfl
    · rw [htext, List.length_singleton] at hlength
      omega
  have hvalue : ofDigits 10 ds = n.toNat := by rw [ofDigits_ten hds, Decimal.ofDigitChars_ofNat]
  have hmax : ¬ 255 < n.toNat := by have := n.toNat_lt; omega
  unfold octet
  rw [spanDigits_complete hds hend]
  dsimp only
  rw [hvalue, if_neg (by simp only [not_or]; exact ⟨hne, by omega, hlead, hmax⟩), UInt8.ofNat_toNat]

/-- An octet has one text. -/
theorem octet_eq_some_iff {n : UInt8} : octet s = some (n, rest) ↔
    s = (Decimal.ofNat n.toNat).toList ++ rest ∧ EndsDigits Decimal.digit? rest := by
  constructor
  · exact octet_sound
  · rintro ⟨rfl, hend⟩
    exact octet_complete n hend

theorem endsDigits_cons {c : Char} (h : Decimal.digit? c = none) (cs : List Char) :
    EndsDigits Decimal.digit? (c :: cs) := by
  rintro d ⟨⟩
  exact h

theorem text_ipv4 (ip : Ipv4) : ip.text.toList =
    (Decimal.ofNat ip.a.toNat).toList ++ '.' :: ((Decimal.ofNat ip.b.toNat).toList ++
      '.' :: ((Decimal.ofNat ip.c.toNat).toList ++ '.' :: (Decimal.ofNat ip.d.toNat).toList)) := by
  rw [Ipv4.text, String.toList_intercalate]
  simp [List.intercalate_cons_cons, List.intercalate_singleton]

/-- An IPv4 address has one text. -/
theorem ipv4_eq_some_iff {ip : Ipv4} : ipv4 s = some (ip, rest) ↔
    s = ip.text.toList ++ rest ∧ EndsDigits Decimal.digit? rest := by
  have hdot (cs : List Char) : EndsDigits Decimal.digit? ('.' :: cs) := endsDigits_cons (by decide) cs
  unfold ipv4
  simp only [Option.bind_eq_bind, Option.bind_eq_some_iff, Prod.exists, Option.pure_def, Option.some.injEq, Prod.mk.injEq]
  constructor
  · rintro ⟨a, s₁, ha, _, s₂, h₁, b, s₃, hb, _, s₄, h₂, c, s₅, hc, _, s₆, h₃, d, s₇, hd, rfl, rfl⟩
    obtain ⟨rfl, -⟩ := octet_eq_some_iff.mp ha
    obtain rfl := char_eq_some_iff.mp h₁
    obtain ⟨rfl, -⟩ := octet_eq_some_iff.mp hb
    obtain rfl := char_eq_some_iff.mp h₂
    obtain ⟨rfl, -⟩ := octet_eq_some_iff.mp hc
    obtain rfl := char_eq_some_iff.mp h₃
    obtain ⟨rfl, hend⟩ := octet_eq_some_iff.mp hd
    refine ⟨?_, hend⟩
    simp [text_ipv4]
  · rintro ⟨rfl, hend⟩
    rw [text_ipv4]
    simp only [List.append_assoc, List.cons_append]
    exact ⟨ip.a, _, octet_eq_some_iff.mpr ⟨rfl, hdot _⟩, (), _, char_eq_some_iff.mpr rfl,
      ip.b, _, octet_eq_some_iff.mpr ⟨rfl, hdot _⟩, (), _, char_eq_some_iff.mpr rfl,
      ip.c, _, octet_eq_some_iff.mpr ⟨rfl, hdot _⟩, (), _, char_eq_some_iff.mpr rfl,
      ip.d, _, octet_eq_some_iff.mpr ⟨rfl, hend⟩, rfl, rfl⟩

end Reader

end NumberRegistry.Net
