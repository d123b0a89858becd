/-
  NumberRegistry.Proofs.Json.Literal — how strings and numbers are written.

  The forms of a string and of a number are stated as a grammar, without a reader. A string
  is written in units, each a character, an escape or the number of a code point or of half
  of a pair (`UnitForm`); what the units stand for together is its text (`Denotes`), and a
  half that stands alone leaves it without one. The readers take just these forms off the
  front of a text (`readString_eq_some_iff`, `readNumber_sound`, `readNumber_complete`). A
  number has no end of its own: what is behind keeps it from going on (`EndsNumber`).
-/
import NumberRegistry.Json.Reader
import NumberRegistry.Proofs.Text.Decimal
import NumberRegistry.Proofs.Text.Parts

namespace NumberRegistry.Json

open Text

variable {s rest : List Char}

/-! ## Strings -/

/-- One unit of a string literal as it is written: a code point or half of a pair. -/
inductive UnitForm : List Char → Nat → Prop
  | plain {c : Char} (hcontrol : ¬ c.toNat < 0x20) (hquote : c ≠ '"') (hescape : c ≠ '\\') : UnitForm [c] c.toNat
  | escaped {e c : Char} (h : simpleEscape? e = some c) : UnitForm ['\\', e] c.toNat
  | hex {a b c d : Char} {n : Nat} (h : hex4? a b c d = some n) : UnitForm ['\\', 'u', a, b, c, d] n

inductive UnitsForm : List Char → List Nat → Prop
  | nil : UnitsForm [] []
  | cons {cs s : List Char} {n : Nat} {ns : List Nat} (h : UnitForm cs n) (hrest : UnitsForm s ns) :
      UnitsForm (cs ++ s) (n :: ns)

/-- The characters that code points and pairs stand for. -/
inductive Denotes : List Nat → List Char → Prop
  | nil : Denotes [] []
  | char {ns : List Nat} {s : List Char} (c : Char) (h : Denotes ns s) : Denotes (c.toNat :: ns) (c :: s)
  | pair {high low : Nat} {ns : List Nat} {s : List Char} (hhigh : isHigh high = true) (hlow : isLow low = true)
      (h : Denotes ns s) :
      Denotes (high :: low :: ns) (Char.ofNat (0x10000 + (high - 0xD800) * 0x400 + (low - 0xDC00)) :: s)

/-- What is between the quotes of a string, and the text of it if it denotes one. -/
def StringForm (cs : List Char) (t : Option String) : Prop :=
  ∃ ns, UnitsForm cs ns ∧ ∀ s : String, t = some s ↔ Denotes ns s.toList

/-- A character that needs no escape. -/
theorem readUnits_cons {c : Char} (hq : c ≠ '"') (hb : c ≠ '\\') (hc : ¬ c.toNat < 0x20) (cs : List Char) :
    readUnits (c :: cs) = (readUnits cs).map fun (ns, rest) => (c.toNat :: ns, rest) := by
  rw [readUnits.eq_def]
  split
  case h_5 heq => cases heq; exact if_neg (not_or.mpr ⟨hc, hb⟩)
  all_goals simp_all

theorem UnitForm.readUnits {cs : List Char} {n : Nat} (h : UnitForm cs n) (s : List Char) :
    readUnits (cs ++ s) = (Json.readUnits s).map fun (ns, rest) => (n :: ns, rest) := by
  cases h with
  | plain hcontrol hquote hescape => exact readUnits_cons hquote hescape hcontrol s
  | @escaped e c h =>
    have hu : e ≠ 'u' := by
      rintro rfl
      cases h
    rw [List.cons_append, List.cons_append, List.nil_append, Json.readUnits, h]
    rintro a b c d cs heq
    exact absurd heq hu
  | hex h =>
    simp only [List.cons_append, List.nil_append, Json.readUnits, h]

theorem UnitForm.cons_sound {t cs : List Char} {n : Nat} {ns : List Nat} (hunit : UnitForm cs n)
    (ih : ∀ {ns}, Json.readUnits t = some (ns, rest) → ∃ form, UnitsForm form ns ∧ t = form ++ '"' :: rest)
    (h : ((Json.readUnits t).map fun (ns, rest) => (n :: ns, rest)) = some (ns, rest)) :
    ∃ form, UnitsForm form ns ∧ cs ++ t = form ++ '"' :: rest := by
  obtain ⟨⟨ns', rest'⟩, hread, hpair⟩ := Option.map_eq_some_iff.mp h
  cases hpair
  obtain ⟨form, hform, rfl⟩ := ih hread
  exact ⟨cs ++ form, .cons hunit hform, by rw [List.append_assoc]⟩

theorem readUnits_sound {ns : List Nat} (h : readUnits s = some (ns, rest)) :
    ∃ cs, UnitsForm cs ns ∧ s = cs ++ '"' :: rest := by
  fun_induction readUnits s generalizing ns with
  | case1 => cases h
  | case2 cs =>
    cases h
    exact ⟨[], .nil, rfl⟩
  | case3 a b c d cs n hn ih => exact (UnitForm.hex hn).cons_sound ih h
  | case4 => cases h
  | case5 e cs _ c hc ih => exact (UnitForm.escaped hc).cons_sound ih h
  | case6 => cases h
  | case7 => cases h
  | case8 c cs hquote _ _ hc ih =>
    rw [not_or] at hc
    exact (UnitForm.plain hc.1 hquote hc.2).cons_sound ih h

theorem readUnits_eq_some_iff {ns : List Nat} : readUnits s = some (ns, rest) ↔
    ∃ cs, UnitsForm cs ns ∧ s = cs ++ '"' :: rest := by
  refine ⟨readUnits_sound, ?_⟩
  rintro ⟨cs, h, rfl⟩
  induction h with
  | nil => rw [List.nil_append, readUnits]
  | cons hunit _ ih =>
    rw [List.append_assoc, hunit.readUnits, ih]
    rfl

/-- A unit of a literal is no larger than the largest character. -/
theorem UnitForm.lt {cs : List Char} {n : Nat} (h : UnitForm cs n) : n < 0x110000 := by
  have hchar (c : Char) : c.toNat < 0x110000 := by
    have h : c.toNat < 0xD800 ∨ 0xDFFF < c.toNat ∧ c.toNat < 0x110000 := c.valid
    omega
  cases h with
  | plain => exact hchar _
  | escaped => exact hchar _
  | hex h =>
    simp only [hex4?, Option.bind_eq_bind, Option.bind_eq_some_iff, Option.pure_def, Option.some.injEq] at h
    obtain ⟨w, hw, x, hx, y, hy, z, hz, rfl⟩ := h
    have := Percent.hexValue?_lt hw
    have := Percent.hexValue?_lt hx
    have := Percent.hexValue?_lt hy
    have := Percent.hexValue?_lt hz
    omega

theorem UnitsForm.lt {cs : List Char} {ns : List Nat} (h : UnitsForm cs ns) : ∀ n ∈ ns, n < 0x110000 := by
  induction h with
  | nil => exact nofun
  | cons hunit _ ih => exact List.forall_mem_cons.mpr ⟨hunit.lt, ih⟩

/-- No character is half of a pair. -/
theorem not_half (c : Char) : isHigh c.toNat = false ∧ isLow c.toNat = false := by
  have h : c.toNat < 0xD800 ∨ 0xDFFF < c.toNat ∧ c.toNat < 0x110000 := c.valid
  simp only [isHigh, isLow, Bool.and_eq_false_iff, decide_eq_false_iff_not]
  omega

/-- What is not half of a pair is a character. -/
theorem exists_char {n : Nat} (h : n < 0x110000) (hhigh : isHigh n = false) (hlow : isLow n = false) :
    ∃ c : Char, c.toNat = n ∧ Char.ofNat n = c := by
  have hvalid : n.isValidChar := by
    simp only [isHigh, isLow, Bool.and_eq_false_iff, decide_eq_false_iff_not] at hhigh hlow
    show n < 0xD800 ∨ 0xDFFF < n ∧ n < 0x110000
    omega
  exact ⟨Char.ofNatAux n hvalid, rfl, dif_pos hvalid⟩

theorem joinPairs_sound {ns : List Nat} (hns : ∀ n ∈ ns, n < 0x110000) (h : joinPairs ns = some s) : Denotes ns s := by
  fun_induction joinPairs ns generalizing s with
  | case1 =>
    cases h
    exact .nil
  | case2 => cases h
  | case3 n hn =>
    cases h
    rw [not_or, Bool.not_eq_true, Bool.not_eq_true] at hn
    obtain ⟨c, rfl, hc⟩ := exists_char (hns n List.mem_cons_self) hn.1 hn.2
    rw [hc]
    exact .char c .nil
  | case4 n m ns hhigh hlow ih =>
    obtain ⟨s', hread, rfl⟩ := Option.map_eq_some_iff.mp h
    exact .pair hhigh hlow (ih (fun k hk => hns k (List.mem_cons_of_mem _ (List.mem_cons_of_mem _ hk))) hread)
  | case5 => cases h
  | case6 => cases h
  | case7 n m ns hhigh hlow ih =>
    obtain ⟨s', hread, rfl⟩ := Option.map_eq_some_iff.mp h
    rw [Bool.not_eq_true] at hhigh hlow
    obtain ⟨c, rfl, hc⟩ := exists_char (hns n List.mem_cons_self) hhigh hlow
    rw [hc]
    exact .char c (ih (fun k hk => hns k (List.mem_cons_of_mem _ hk)) hread)

theorem joinPairs_complete {ns : List Nat} (h : Denotes ns s) : joinPairs ns = some s := by
  induction h with
  | nil => rfl
  | @char ns s c h ih =>
    cases ns with
    | nil =>
      cases h
      simp [joinPairs, not_half c]
    | cons m ns => simp [joinPairs, not_half c, ih]
  | pair hhigh hlow h ih => simp [joinPairs, hhigh, hlow, ih]

theorem readString_eq_some_iff {t : Option String} : readString s = some (t, rest) ↔
    ∃ cs, StringForm cs t ∧ s = cs ++ '"' :: rest := by
  have hdenotes {cs : List Char} {ns : List Nat} (h : UnitsForm cs ns) (text : String) :
      (joinPairs ns).map String.ofList = some text ↔ Denotes ns text.toList := by
    rw [Option.map_eq_some_iff]
    constructor
    · rintro ⟨cs, hjoin, rfl⟩
      rw [String.toList_ofList]
      exact joinPairs_sound h.lt hjoin
    · intro hd
      exact ⟨text.toList, joinPairs_complete hd, String.ofList_toList⟩
  unfold readString
  constructor
  · intro h
    obtain ⟨⟨ns, rest'⟩, hread, hpair⟩ := Option.map_eq_some_iff.mp h
    cases hpair
    obtain ⟨cs, hunits, rfl⟩ := readUnits_eq_some_iff.mp hread
    exact ⟨cs, ⟨ns, hunits, hdenotes hunits⟩, rfl⟩
  · rintro ⟨cs, ⟨ns, hunits, ht⟩, rfl⟩
    have heq : (joinPairs ns).map String.ofList = t :=
      Option.ext fun text => (hdenotes hunits text).trans (ht text).symm
    rw [readUnits_eq_some_iff.mpr ⟨cs, hunits, rfl⟩, ← heq]
    rfl

/-! ## Numbers -/

/-- Digits without a superfluous zero in front. -/
def WholeForm (ds : List Char) : Prop := Decimal.Digits ds ∧ (ds.head? = some '0' → ds = ['0'])

def FractionForm (cs : List Char) : Prop := cs = [] ∨ ∃ ds, Decimal.Digits ds ∧ cs = '.' :: ds

def ExponentForm (cs : List Char) : Prop :=
  cs = [] ∨ ∃ e sign ds, (e = 'e' ∨ e = 'E') ∧ (sign = [] ∨ sign = ['+'] ∨ sign = ['-']) ∧ Decimal.Digits ds ∧
    cs = e :: (sign ++ ds)

inductive NumberForm : List Char → Prop
  | mk {sign whole fraction exponent : List Char} (hsign : sign = [] ∨ sign = ['-']) (hwhole : WholeForm whole)
      (hfraction : FractionForm fraction) (hexponent : ExponentForm exponent) :
      NumberForm (sign ++ (whole ++ (fraction ++ exponent)))

/-- What keeps a number from going on. -/
def EndsNumber (rest : List Char) : Prop := ∀ c ∈ rest.head?, c.isDigit = false ∧ c ≠ '.' ∧ c ≠ 'e' ∧ c ≠ 'E'

theorem readDigits_sound {ds : List Char} (h : readDigits s = some (ds, rest)) : Decimal.Digits ds ∧ s = ds ++ rest := by
  unfold readDigits at h
  dsimp only at h
  split at h
  · cases h
  · rename_i hne
    cases h
    exact ⟨⟨hne, List.all_eq_true.mp List.all_takeWhile⟩, List.takeWhile_append_dropWhile.symm⟩

theorem readDigits_complete {ds : List Char} (h : Decimal.Digits ds) (hrest : ∀ c ∈ rest.head?, c.isDigit = false) :
    readDigits (ds ++ rest) = some (ds, rest) := by
  rw [readDigits, takeWhile_exact h.2 hrest, dropWhile_exact h.2 hrest]
  exact if_neg h.1

theorem readWhole_sound {ds : List Char} (h : readWhole s = some (ds, rest)) : WholeForm ds ∧ s = ds ++ rest := by
  unfold readWhole at h
  split at h
  · cases h
  · rename_i hzero
    obtain ⟨hdigits, hs⟩ := readDigits_sound h
    refine ⟨⟨hdigits, fun hhead => ?_⟩, hs⟩
    obtain ⟨tail, rfl⟩ := List.head?_eq_some_iff.mp hhead
    cases tail with
    | nil => rfl
    | cons c tail => exact absurd h (hzero c tail rest)

theorem readWhole_complete {ds : List Char} (h : WholeForm ds) (hrest : ∀ c ∈ rest.head?, c.isDigit = false) :
    readWhole (ds ++ rest) = some (ds, rest) := by
  rw [readWhole, readDigits_complete h.1 hrest]
  split
  · rename_i heq
    simp only [Option.some.injEq, Prod.mk.injEq] at heq
    have hzero := h.2 (by rw [heq.1]; rfl)
    rw [heq.1] at hzero
    cases hzero
  · rfl

theorem readFraction_sound {cs : List Char} (h : readFraction s = some (cs, rest)) : FractionForm cs ∧ s = cs ++ rest := by
  unfold readFraction at h
  split at h
  · obtain ⟨⟨ds, rest'⟩, hread, hpair⟩ := Option.map_eq_some_iff.mp h
    cases hpair
    obtain ⟨hdigits, rfl⟩ := readDigits_sound hread
    exact ⟨Or.inr ⟨ds, hdigits, rfl⟩, rfl⟩
  · cases h
    exact ⟨Or.inl rfl, rfl⟩

theorem readFraction_complete {cs : List Char} (h : FractionForm cs) (hrest : ∀ c ∈ rest.head?, c.isDigit = false ∧ c ≠ '.') :
    readFraction (cs ++ rest) = some (cs, rest) := by
  rcases h with rfl | ⟨ds, hdigits, rfl⟩
  · rw [List.nil_append]
    unfold readFraction
    split
    · exact absurd rfl (hrest '.' rfl).2
    · rfl
  · rw [List.cons_append, readFraction, readDigits_complete hdigits fun c hc => (hrest c hc).1]
    rfl

theorem readExponent_sound {cs : List Char} (h : readExponent s = some (cs, rest)) : ExponentForm cs ∧ s = cs ++ rest := by
  unfold readExponent at h
  split at h
  · split at h
    · rename_i e cs' he
      split at h
      · rename_i sign ds
        split at h
        · rename_i hsign
          obtain ⟨⟨ds', rest'⟩, hread, hpair⟩ := Option.map_eq_some_iff.mp h
          cases hpair
          obtain ⟨hdigits, rfl⟩ := readDigits_sound hread
          refine ⟨Or.inr ⟨e, [sign], ds', he, Or.inr ?_, hdigits, rfl⟩, rfl⟩
          rcases hsign with rfl | rfl
          · exact Or.inl rfl
          · exact Or.inr rfl
        · obtain ⟨⟨ds', rest'⟩, hread, hpair⟩ := Option.map_eq_some_iff.mp h
          cases hpair
          obtain ⟨hdigits, hs⟩ := readDigits_sound hread
          exact ⟨Or.inr ⟨e, [], ds', he, Or.inl rfl, hdigits, rfl⟩, by rw [hs]; rfl⟩
      · cases h
    · cases h
      exact ⟨Or.inl rfl, rfl⟩
  · cases h
    exact ⟨Or.inl rfl, rfl⟩

theorem readExponent_complete {cs : List Char} (h : ExponentForm cs) (hrest : EndsNumber rest) :
    readExponent (cs ++ rest) = some (cs, rest) := by
  rcases h with rfl | ⟨e, sign, ds, he, hsign, hdigits, rfl⟩
  · rw [List.nil_append]
    unfold readExponent
    split
    · rename_i e cs
      have hhead := hrest e rfl
      rw [if_neg (not_or.mpr hhead.2.2)]
    · rfl
  · have hread := readDigits_complete hdigits fun c hc => (hrest c hc).1
    obtain ⟨d, tail, rfl⟩ := List.exists_cons_of_ne_nil hdigits.1
    have hd := hdigits.2 d List.mem_cons_self
    have hplain : ¬ (d = '+' ∨ d = '-') := by
      rintro (rfl | rfl) <;> exact absurd hd (by decide)
    unfold readExponent
    rcases hsign with rfl | rfl | rfl
    · simp only [List.cons_append, List.nil_append] at hread ⊢
      rw [if_pos he, if_neg hplain, hread]
      rfl
    · simp only [List.cons_append, List.nil_append] at hread ⊢
      rw [if_pos he, if_pos (Or.inl trivial), hread]
      rfl
    · simp only [List.cons_append, List.nil_append] at hread ⊢
      rw [if_pos he, if_pos (Or.inr trivial), hread]
      rfl

theorem readUnsigned_sound {cs : List Char} (h : readUnsigned s = some (cs, rest)) :
    ∃ whole fraction exponent, WholeForm whole ∧ FractionForm fraction ∧ ExponentForm exponent ∧
      cs = whole ++ (fraction ++ exponent) ∧ s = cs ++ rest := by
  unfold readUnsigned at h
  obtain ⟨⟨whole, s₁⟩, hwhole, h₁⟩ := Option.bind_eq_some_iff.mp h
  obtain ⟨⟨fraction, s₂⟩, hfraction, h₂⟩ := Option.bind_eq_some_iff.mp h₁
  obtain ⟨⟨exponent, s₃⟩, hexponent, hpair⟩ := Option.bind_eq_some_iff.mp h₂
  obtain ⟨hw, rfl⟩ := readWhole_sound hwhole
  obtain ⟨hf, rfl⟩ := readFraction_sound hfraction
  obtain ⟨he, rfl⟩ := readExponent_sound hexponent
  cases hpair
  refine ⟨whole, fraction, exponent, hw, hf, he, by rw [List.append_assoc], ?_⟩
  rw [List.append_assoc, List.append_assoc]

theorem readUnsigned_complete {whole fraction exponent : List Char} (hwhole : WholeForm whole)
    (hfraction : FractionForm fraction) (hexponent : ExponentForm exponent) (hrest : EndsNumber rest) :
    readUnsigned (whole ++ (fraction ++ (exponent ++ rest))) = some (whole ++ fraction ++ exponent, rest) := by
  have hbehind : ∀ c ∈ (exponent ++ rest).head?, c.isDigit = false ∧ c ≠ '.' := by
    rcases hexponent with rfl | ⟨e, sign, ds, he, -, -, rfl⟩
    · exact fun c hc => ⟨(hrest c hc).1, (hrest c hc).2.1⟩
    · rintro c ⟨⟩
      rcases he with rfl | rfl <;> decide
  have hpoint : ∀ c ∈ (fraction ++ (exponent ++ rest)).head?, c.isDigit = false := by
    rcases hfraction with rfl | ⟨ds, -, rfl⟩
    · exact fun c hc => (hbehind c hc).1
    · rintro c ⟨⟩
      decide
  simp only [readUnsigned, readWhole_complete hwhole hpoint, readFraction_complete hfraction hbehind,
    readExponent_complete hexponent hrest, Option.bind_eq_bind, Option.bind_some]
  rfl

theorem readNumber_sound {cs : List Char} (h : readNumber s = some (cs, rest)) : NumberForm cs ∧ s = cs ++ rest := by
  unfold readNumber at h
  split at h
  · obtain ⟨⟨ds, rest'⟩, hread, hpair⟩ := Option.map_eq_some_iff.mp h
    cases hpair
    obtain ⟨whole, fraction, exponent, hwhole, hfraction, hexponent, rfl, rfl⟩ := readUnsigned_sound hread
    exact ⟨.mk (Or.inr rfl : ['-'] = [] ∨ ['-'] = ['-']) hwhole hfraction hexponent, rfl⟩
  · obtain ⟨whole, fraction, exponent, hwhole, hfraction, hexponent, rfl, rfl⟩ := readUnsigned_sound h
    exact ⟨.mk (Or.inl rfl : [] = [] ∨ [] = ['-']) hwhole hfraction hexponent, rfl⟩

theorem WholeForm.head {ds : List Char} (h : WholeForm ds) : ∃ d tail, ds = d :: tail ∧ d.isDigit = true := by
  obtain ⟨d, tail, rfl⟩ := List.exists_cons_of_ne_nil h.1.1
  exact ⟨d, tail, rfl, h.1.2 d List.mem_cons_self⟩

theorem readNumber_complete {cs : List Char} (h : NumberForm cs) (hrest : EndsNumber rest) :
    readNumber (cs ++ rest) = some (cs, rest) := by
  obtain @⟨sign, whole, fraction, exponent, hsign, hwhole, hfraction, hexponent⟩ := h
  have hread := readUnsigned_complete hwhole hfraction hexponent hrest
  rcases hsign with rfl | rfl
  · obtain ⟨d, tail, rfl, hd⟩ := hwhole.head
    have hminus : d ≠ '-' := by
      rintro rfl
      exact absurd hd (by decide)
    unfold readNumber
    simp only [List.nil_append, List.append_assoc, List.cons_append] at hread ⊢
    split
    · rename_i heq
      exact absurd (List.cons.inj heq).1 hminus
    · exact hread
  · simp only [List.append_assoc, List.cons_append, List.nil_append] at hread ⊢
    rw [readNumber, hread]
    rfl

end NumberRegistry.Json
