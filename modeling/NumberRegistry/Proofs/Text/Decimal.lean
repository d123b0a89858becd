/-
  NumberRegistry.Proofs.Text.Decimal — the decimal text of a number tells the number.

  A number's text is read back as the number wherever that is within the bounds
  (`parseInt_ofInt`, `parseInt32_ofInt`); so numbers with one text are the same
  (`ofInt_inj`). What is read as a number at all is a numeral, which may have a plus sign
  and any zeros in front (`Numeral`, `parseInt_ok_iff`, `parseInt32_ok_iff`); a number that
  is not negative has no minus sign either (`Unsigned`, `parseNat_ok_iff`).
-/
import Mathlib.Data.List.Induction
import NumberRegistry.Text.Decimal

namespace NumberRegistry.Text.Decimal

theorem isDigit_of_mem_ofNat {n : Nat} {c : Char} (h : c ∈ (Decimal.ofNat n).toList) :
    c.isDigit = true := by
  rw [Decimal.ofNat, String.toList_ofList] at h
  exact Nat.isDigit_of_mem_toDigits (by decide) (by decide) h

theorem mem_ofInt {i : Int} {c : Char} (h : c ∈ (Decimal.ofInt i).toList) :
    c = '-' ∨ c.isDigit = true := by
  cases i with
  | ofNat n => exact Or.inr (isDigit_of_mem_ofNat h)
  | negSucc n =>
    rw [Decimal.ofInt, String.toList_append] at h
    rcases List.mem_append.mp h with h | h
    · exact Or.inl (by simpa using h)
    · exact Or.inr (isDigit_of_mem_ofNat h)

theorem length_ofNat_le {n k : Nat} (hk : 0 < k) (h : n < Nat.pow 10 k) : (Decimal.ofNat n).toList.length ≤ k := by
  rw [Decimal.ofNat, String.toList_ofList]
  exact (Nat.length_toDigits_le_iff (by decide) hk).mpr h

theorem length_ofInt_le {i : Int} {k : Nat} (hk : 0 < k) (h : i.natAbs < Nat.pow 10 k) :
    (Decimal.ofInt i).toList.length ≤ k + 1 := by
  cases i with
  | ofNat n => exact Nat.le_succ_of_le (length_ofNat_le hk h)
  | negSucc n =>
    have : (Decimal.ofNat (n + 1)).toList.length ≤ k := length_ofNat_le hk h
    rw [Decimal.ofInt, String.toList_append, List.length_append]
    change 1 + (Decimal.ofNat (n + 1)).toList.length ≤ k + 1
    omega

/-- Only zero is written with a zero in front. -/
theorem ofNat_leading {n : Nat} {c : Char} {ds : List Char} (h : (Decimal.ofNat n).toList = c :: ds) :
    c ≠ '0' ∨ ds = [] := by
  rw [Decimal.ofNat, String.toList_ofList] at h
  induction n using Nat.strongRecOn generalizing ds with
  | ind n ih =>
    rw [Nat.toDigits_eq_if (by decide)] at h
    split at h
    · simp only [List.cons.injEq] at h; exact Or.inr h.2.symm
    · rename_i hn
      cases hfront : Nat.toDigits 10 (n / 10) with
      | nil => exact absurd hfront Nat.toDigits_ne_nil
      | cons d front =>
        rw [hfront, List.cons_append, List.cons.injEq] at h
        obtain ⟨rfl, -⟩ := h
        rcases ih (n / 10) (by omega) hfront with hd | rfl
        · exact Or.inl hd
        · have hlt : n / 10 < 10 := by
            simpa [hfront] using Nat.length_toDigits_le_iff (b := 10) (n := n / 10) (k := 1) (by decide) (by decide)
          have digits : ∀ m ∈ List.range 10, m ≠ 0 → Nat.digitChar m ≠ '0' := by decide
          rw [Nat.toDigits_of_lt_base hlt, List.cons.injEq] at hfront
          rw [← hfront.1]
          exact Or.inl (digits _ (List.mem_range.mpr hlt) (by omega))

theorem ofInt_ne_nil (i : Int) : (Decimal.ofInt i).toList ≠ [] := by
  cases i with
  | ofNat n => simp [Decimal.ofInt, Decimal.ofNat, Nat.toDigits_ne_nil]
  | negSucc n => simp [Decimal.ofInt]

/-! ## Reading back -/

theorem digit?_of_isDigit {c : Char} (h : c.isDigit = true) : digit? c = some (c.toNat - 48) := by
  have hc : '0' ≤ c ∧ c ≤ '9' := by simpa [Char.isDigit, Char.le_def] using h
  simp [digit?, hc]

/-- Digits are read as the number they are the digits of, if that is not too large. -/
theorem magnitude_digits {max : Nat} {excess : ParseError} {ds : List Char} :
    ∀ {acc : Nat}, (∀ c ∈ ds, c.isDigit = true) → Nat.ofDigitChars 10 ds acc ≤ max →
      magnitude max excess acc ds = .ok (Nat.ofDigitChars 10 ds acc) := by
  induction ds with
  | nil => intro acc _ _; simp [magnitude, Nat.ofDigitChars_nil]
  | cons c ds ih =>
    intro acc hds hmax
    have hacc : acc * 10 + (c.toNat - 48) = 10 * acc + (c.toNat - '0'.toNat) := by
      rw [Nat.mul_comm]; rfl
    rw [Nat.ofDigitChars_cons, ← hacc] at hmax ⊢
    -- digits that follow never make the number smaller
    have hle : acc * 10 + (c.toNat - 48) ≤ max := by
      refine Nat.le_trans ?_ hmax
      rw [Nat.ofDigitChars_eq_ofDigitChars_zero]
      exact Nat.le_trans (Nat.le_mul_of_pos_left _ (Nat.pow_pos (by decide))) (Nat.le_add_right _ _)
    rw [magnitude, digit?_of_isDigit (hds c List.mem_cons_self)]
    simp only [hle, if_true]
    exact ih (fun d hd => hds d (List.mem_cons_of_mem _ hd)) hmax

theorem isDigit_of_digit? {c : Char} {d : Nat} (h : digit? c = some d) :
    c.isDigit = true ∧ d = c.toNat - 48 := by
  unfold digit? at h
  split at h
  · rename_i hc
    cases h
    exact ⟨by simpa [Char.isDigit, Char.le_def] using hc, rfl⟩
  · cases h

/-- Only digits are read, and only as a number that is not too large. -/
theorem digits_of_magnitude {max n : Nat} {excess : ParseError} {ds : List Char} :
    ∀ {acc : Nat}, acc ≤ max → magnitude max excess acc ds = .ok n →
      (∀ c ∈ ds, c.isDigit = true) ∧ Nat.ofDigitChars 10 ds acc = n ∧ n ≤ max := by
  induction ds with
  | nil =>
    intro acc hacc h
    simp only [magnitude, Except.ok.injEq] at h
    exact ⟨by simp, by rw [Nat.ofDigitChars_nil, h], h ▸ hacc⟩
  | cons c ds ih =>
    intro acc _ h
    simp only [magnitude] at h
    split at h
    · cases h
    rename_i d hd
    obtain ⟨hc, rfl⟩ := isDigit_of_digit? hd
    split at h
    · rename_i hle
      obtain ⟨hds, hn, hmax⟩ := ih hle h
      refine ⟨List.forall_mem_cons.mpr ⟨hc, hds⟩, ?_, hmax⟩
      rw [Nat.ofDigitChars_cons, Nat.mul_comm]
      exact hn
    · cases h

theorem magnitude_ok_iff {max n : Nat} {excess : ParseError} {ds : List Char} :
    magnitude max excess 0 ds = .ok n ↔
      (∀ c ∈ ds, c.isDigit = true) ∧ Nat.ofDigitChars 10 ds 0 = n ∧ n ≤ max := by
  refine ⟨digits_of_magnitude (Nat.zero_le _), ?_⟩
  rintro ⟨hds, rfl, hmax⟩
  exact magnitude_digits hds hmax

theorem magnitude_ofNat {max n : Nat} (excess : ParseError) (h : n ≤ max) :
    magnitude max excess 0 (Decimal.ofNat n).toList = .ok n := by
  have hn : Nat.ofDigitChars 10 (Decimal.ofNat n).toList 0 = n := by
    rw [Decimal.ofNat, String.toList_ofList, Nat.ofDigitChars_toDigits (by decide) (by decide)]
  rw [magnitude_digits (fun _ => isDigit_of_mem_ofNat) (by rw [hn]; exact h), hn]

theorem parseInt_digits {max : Nat} {ds : List Char} (hne : ds ≠ []) (hds : ∀ c ∈ ds, c.isDigit = true) :
    parseInt max ds = (magnitude max .tooLarge 0 ds).map Int.ofNat := by
  cases ds with
  | nil => exact absurd rfl hne
  | cons c ds =>
    have hc : c.isDigit = true := hds c List.mem_cons_self
    unfold parseInt
    split
    case h_1 h => cases h
    case h_6 => rfl
    all_goals rename_i h; cases h; exact absurd hc (by decide)

theorem parseInt_plus {max : Nat} {ds : List Char} (h : ds ≠ []) :
    parseInt max ('+' :: ds) = (magnitude max .tooLarge 0 ds).map Int.ofNat := by
  cases ds with
  | nil => exact absurd rfl h
  | cons => rfl

theorem parseInt_minus {max : Nat} {ds : List Char} (h : ds ≠ []) :
    parseInt max ('-' :: ds) = (magnitude (max + 1) .tooSmall 0 ds).map fun n => -(Int.ofNat n) := by
  cases ds with
  | nil => exact absurd rfl h
  | cons => rfl

theorem parseInt_ofInt (max : Nat) {i : Int} (hlo : -(max + 1 : Int) ≤ i) (hhi : i ≤ max) :
    parseInt max (Decimal.ofInt i).toList = .ok i := by
  cases i with
  | ofNat n =>
    have hn : n ≤ max := Int.ofNat_le.mp hhi
    have hne : (Decimal.ofNat n).toList ≠ [] := ofInt_ne_nil (.ofNat n)
    change parseInt max (Decimal.ofNat n).toList = _
    rw [parseInt_digits hne (fun _ => isDigit_of_mem_ofNat), magnitude_ofNat .tooLarge hn]
    rfl
  | negSucc n =>
    have hn : n + 1 ≤ max + 1 := by omega
    have hne : (Decimal.ofNat (n + 1)).toList ≠ [] := ofInt_ne_nil (.ofNat (n + 1))
    change parseInt max ("-" ++ Decimal.ofNat (n + 1)).toList = _
    rw [String.toList_append]
    change parseInt max ('-' :: (Decimal.ofNat (n + 1)).toList) = _
    rw [parseInt_minus hne, magnitude_ofNat .tooSmall hn]
    rfl

theorem ofInt_inj {i j : Int} (h : Decimal.ofInt i = Decimal.ofInt j) : i = j := by
  have hi := parseInt_ofInt (i.natAbs + j.natAbs) (i := i) (by omega) (by omega)
  have hj := parseInt_ofInt (i.natAbs + j.natAbs) (i := j) (by omega) (by omega)
  rw [h, hj] at hi
  cases hi
  rfl

theorem ofInt_ne_minusZero (i : Int) : Decimal.ofInt i ≠ "-0" := by
  intro h
  have hi := parseInt_ofInt i.natAbs (i := i) (by omega) (by omega)
  have hzero : i = 0 := by
    rw [h] at hi
    simp [parseInt, magnitude, digit?, Except.map] at hi
    omega
  rw [hzero] at h
  exact absurd h (by decide)

theorem parseInt32_ofInt (n : Int32) : parseInt32 (Decimal.ofInt n.toInt).toList = .ok n := by
  have hlo := Int32.le_toInt n
  have hhi := Int32.toInt_lt n
  rw [parseInt32, parseInt_ofInt _ (by omega) (by omega)]
  simp [Except.map]

/-! ## Numerals -/

/-- One or more digits. -/
def Digits (ds : List Char) : Prop := ds ≠ [] ∧ ∀ c ∈ ds, c.isDigit = true

/-- An integer in decimal: one or more digits, with a sign in front or none. -/
inductive Numeral : List Char → Int → Prop
  | plain {ds : List Char} (h : Digits ds) : Numeral ds (Nat.ofDigitChars 10 ds 0)
  | plus {ds : List Char} (h : Digits ds) : Numeral ('+' :: ds) (Nat.ofDigitChars 10 ds 0)
  | minus {ds : List Char} (h : Digits ds) : Numeral ('-' :: ds) (-Nat.ofDigitChars 10 ds 0)

theorem digitChar_of_isDigit {c : Char} (h : c.isDigit = true) : c.toNat - 48 < 10 ∧ Nat.digitChar (c.toNat - 48) = c := by
  have all : ∀ n ∈ List.range 10, Nat.digitChar n = Char.ofNat (n + 48) := by decide
  have hc : '0' ≤ c ∧ c ≤ '9' := by simpa [Char.isDigit, Char.le_def] using h
  have hlo : 48 ≤ c.toNat := UInt32.le_iff_toNat_le.mp hc.1
  have hhi : c.toNat ≤ 57 := UInt32.le_iff_toNat_le.mp hc.2
  refine ⟨by omega, ?_⟩
  rw [all _ (List.mem_range.mpr (by omega)), Nat.sub_add_cancel hlo, Char.ofNat_toNat]

/-- Digits without a superfluous zero are the text of the number they stand for. -/
theorem ofNat_ofDigitChars {ds : List Char} (h : Digits ds) (hzero : ds.head? = some '0' → ds.length = 1) :
    (Decimal.ofNat (Nat.ofDigitChars 10 ds 0)).toList = ds := by
  rw [Decimal.ofNat, String.toList_ofList]
  induction ds using List.reverseRecOn with
  | nil => exact absurd rfl h.1
  | append_singleton front c ih =>
    obtain ⟨hc, hchar⟩ := digitChar_of_isDigit (h.2 c (by simp))
    rw [Nat.ofDigitChars_append, Nat.ofDigitChars_cons, Nat.ofDigitChars_nil]
    show Nat.toDigits 10 (10 * Nat.ofDigitChars 10 front 0 + (c.toNat - 48)) = front ++ [c]
    by_cases hfront : front = []
    · subst hfront
      rw [Nat.ofDigitChars_nil, Nat.mul_zero, Nat.zero_add, Nat.toDigits_of_lt_base hc, hchar]
      rfl
    · have hdigits : Digits front := ⟨hfront, fun d hd => h.2 d (List.mem_append_left _ hd)⟩
      have hlead : front.head? ≠ some '0' := by
        intro hhead
        have hlen := hzero (by rw [List.head?_append, hhead]; rfl)
        have hpos := List.length_pos_iff.mpr hfront
        rw [List.length_append, List.length_singleton] at hlen
        omega
      have ih := ih hdigits fun hhead => absurd hhead hlead
      have hpos : Nat.ofDigitChars 10 front 0 ≠ 0 := by
        intro hv
        rw [hv] at ih
        exact hlead (by rw [← ih]; rfl)
      rw [Nat.toDigits_of_base_le (by decide) (by omega)]
      have hdiv : (10 * Nat.ofDigitChars 10 front 0 + (c.toNat - 48)) / 10 = Nat.ofDigitChars 10 front 0 := by omega
      have hmod : (10 * Nat.ofDigitChars 10 front 0 + (c.toNat - 48)) % 10 = c.toNat - 48 := by omega
      rw [hdiv, hmod, ih, hchar]

theorem digits_ofNat (n : Nat) : Digits (Decimal.ofNat n).toList :=
  ⟨ofInt_ne_nil (.ofNat n), fun _ => isDigit_of_mem_ofNat⟩

theorem ofDigitChars_ofNat (n : Nat) : Nat.ofDigitChars 10 (Decimal.ofNat n).toList 0 = n := by
  rw [Decimal.ofNat, String.toList_ofList, Nat.ofDigitChars_toDigits (by decide) (by decide)]

theorem map_ok_iff {ε α β : Type} {f : α → β} {x : Except ε α} {b : β} :
    x.map f = .ok b ↔ ∃ a, x = .ok a ∧ f a = b := by
  cases x <;> simp [Except.map]

/-- What is read as an integer, and as which one. -/
theorem parseInt_ok_iff {max : Nat} {s : List Char} {i : Int} :
    parseInt max s = .ok i ↔ Numeral s i ∧ -(max + 1 : Int) ≤ i ∧ i ≤ max := by
  constructor
  · intro h
    unfold parseInt at h
    split at h
    case h_1 | h_2 | h_3 => cases h
    case h_4 ds hne =>
      obtain ⟨n, hn, rfl⟩ := map_ok_iff.mp h
      obtain ⟨hds, rfl, hmax⟩ := magnitude_ok_iff.mp hn
      exact ⟨.plus ⟨hne, hds⟩, by simp only [Int.ofNat_eq_natCast]; omega, by simpa using hmax⟩
    case h_5 ds hne =>
      obtain ⟨n, hn, rfl⟩ := map_ok_iff.mp h
      obtain ⟨hds, rfl, hmax⟩ := magnitude_ok_iff.mp hn
      exact ⟨.minus ⟨hne, hds⟩, by simp only [Int.ofNat_eq_natCast]; omega, by simp only [Int.ofNat_eq_natCast]; omega⟩
    case h_6 hne _ _ _ _ =>
      obtain ⟨n, hn, rfl⟩ := map_ok_iff.mp h
      obtain ⟨hds, rfl, hmax⟩ := magnitude_ok_iff.mp hn
      exact ⟨.plain ⟨hne, hds⟩, by simp only [Int.ofNat_eq_natCast]; omega, by simpa using hmax⟩
  · rintro ⟨hs, hlo, hhi⟩
    cases hs with
    | plain h =>
      rw [parseInt_digits h.1 h.2]
      exact map_ok_iff.mpr ⟨_, magnitude_ok_iff.mpr ⟨h.2, rfl, by omega⟩, rfl⟩
    | plus h =>
      rw [parseInt_plus h.1]
      exact map_ok_iff.mpr ⟨_, magnitude_ok_iff.mpr ⟨h.2, rfl, by omega⟩, rfl⟩
    | minus h =>
      rw [parseInt_minus h.1]
      exact map_ok_iff.mpr ⟨_, magnitude_ok_iff.mpr ⟨h.2, rfl, by omega⟩, rfl⟩

/-- A text is read as a 32-bit integer if it is a numeral of that integer. -/
theorem parseInt32_ok_iff {s : List Char} {n : Int32} : parseInt32 s = .ok n ↔ Numeral s n.toInt := by
  have hlo := Int32.le_toInt n
  have hhi := Int32.toInt_lt n
  rw [parseInt32, map_ok_iff]
  constructor
  · rintro ⟨i, hi, rfl⟩
    obtain ⟨hs, hlo, hhi⟩ := parseInt_ok_iff.mp hi
    rwa [Int32.toInt_ofInt_of_le (by omega) (by omega)]
  · intro hs
    exact ⟨n.toInt, parseInt_ok_iff.mpr ⟨hs, by omega, by omega⟩, Int32.ofInt_toInt n⟩

/-- A number that is not negative: digits, with a plus sign in front or none. -/
inductive Unsigned : List Char → Nat → Prop
  | plain {ds : List Char} (h : Digits ds) : Unsigned ds (Nat.ofDigitChars 10 ds 0)
  | plus {ds : List Char} (h : Digits ds) : Unsigned ('+' :: ds) (Nat.ofDigitChars 10 ds 0)

theorem parseNat_digits {max : Nat} {ds : List Char} (h : Digits ds) :
    parseNat max ds = magnitude max .tooLarge 0 ds := by
  obtain ⟨hne, hds⟩ := h
  cases ds with
  | nil => exact absurd rfl hne
  | cons c ds =>
    have hc : c.isDigit = true := hds c List.mem_cons_self
    unfold parseNat
    split
    case h_1 h => cases h
    case h_4 => rfl
    all_goals rename_i h; cases h; exact absurd hc (by decide)

theorem parseNat_plus {max : Nat} {ds : List Char} (h : ds ≠ []) :
    parseNat max ('+' :: ds) = magnitude max .tooLarge 0 ds := by
  cases ds with
  | nil => exact absurd rfl h
  | cons => rfl

/-- What is read as a number that is not negative, and as which one. -/
theorem parseNat_ok_iff {max n : Nat} {s : List Char} : parseNat max s = .ok n ↔ Unsigned s n ∧ n ≤ max := by
  constructor
  · intro h
    unfold parseNat at h
    split at h
    case h_1 | h_2 => cases h
    case h_3 ds hne =>
      obtain ⟨hds, rfl, hmax⟩ := magnitude_ok_iff.mp h
      exact ⟨.plus ⟨hne, hds⟩, hmax⟩
    case h_4 hne _ _ =>
      obtain ⟨hds, rfl, hmax⟩ := magnitude_ok_iff.mp h
      exact ⟨.plain ⟨hne, hds⟩, hmax⟩
  · rintro ⟨hs, hmax⟩
    cases hs with
    | plain h =>
      rw [parseNat_digits h]
      exact magnitude_ok_iff.mpr ⟨h.2, rfl, hmax⟩
    | plus h =>
      rw [parseNat_plus h.1]
      exact magnitude_ok_iff.mpr ⟨h.2, rfl, hmax⟩

/-- A text stands for one number only. -/
theorem Unsigned.unique {s : List Char} {n m : Nat} (hn : Unsigned s n) (hm : Unsigned s m) : n = m := by
  have hn' : parseNat (n + m) s = .ok n := parseNat_ok_iff.mpr ⟨hn, by omega⟩
  have hm' : parseNat (n + m) s = .ok m := parseNat_ok_iff.mpr ⟨hm, by omega⟩
  rw [hn'] at hm'
  exact Except.ok.inj hm'

theorem parseUInt32_ok_iff {s : List Char} {n : UInt32} : parseUInt32 s = .ok n ↔ Unsigned s n.toNat := by
  have hn : n.toNat < UInt32.size := n.toNat_lt
  rw [parseUInt32, map_ok_iff]
  constructor
  · rintro ⟨m, hm, rfl⟩
    obtain ⟨hs, hmax⟩ := parseNat_ok_iff.mp hm
    rwa [UInt32.toNat_ofNat_of_lt' (by omega)]
  · intro hs
    exact ⟨n.toNat, parseNat_ok_iff.mpr ⟨hs, by omega⟩, UInt32.ofNat_toNat⟩

theorem parseUInt64_ok_iff {s : List Char} {n : UInt64} : parseUInt64 s = .ok n ↔ Unsigned s n.toNat := by
  have hn : n.toNat < UInt64.size := n.toNat_lt
  rw [parseUInt64, map_ok_iff]
  constructor
  · rintro ⟨m, hm, rfl⟩
    obtain ⟨hs, hmax⟩ := parseNat_ok_iff.mp hm
    rwa [UInt64.toNat_ofNat_of_lt' (by omega)]
  · intro hs
    exact ⟨n.toNat, parseNat_ok_iff.mpr ⟨hs, by omega⟩, UInt64.ofNat_toNat⟩

end NumberRegistry.Text.Decimal
