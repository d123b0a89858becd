/-
  NumberRegistry.Proofs.Url.Punycode — what Punycode writes, and that it is read back.

  The encoder passes over the whole list once for each code point it has to write, and
  counts its steps; the decoder counts the same steps off. `KeepsUp` says of a moment of
  the encoding where the decoder then stands: it has put down all characters below the
  code point that is being written, and of that code point those already passed
  (`soFar`), and the encoder's count is what is left of the way to the next place. One
  character passed keeps this (`KeepsUp.visit`), so does the end of a round
  (`KeepsUp.round`), and so at the end the decoder has put down everything
  (`decode?_encode`).

  What is added to the ASCII characters of a list are small letters, digits and hyphens
  (`mem_encode`). What is read are characters in front of the last hyphen, and others
  that are not ASCII (`mem_decode?`). How much is written grows with the steps between the
  code points: wide ones take three digits each (`length_encode_ge`).
-/
import NumberRegistry.Proofs.Text.Parts
import NumberRegistry.Url.Punycode

namespace NumberRegistry.Url.Punycode

open Text

/-! ## Digits -/

section
variable {c : Char}

/-- A small letter or a digit. -/
def IsDigit (c : Char) : Prop := ∃ d < 36, digitChar d = c

theorem isDigit_ne_hyphen (h : IsDigit c) : c ≠ '-' := by
  have all : ∀ d ∈ List.range 36, digitChar d ≠ '-' := by decide
  obtain ⟨d, hd, rfl⟩ := h
  exact all d (List.mem_range.mpr hd)

theorem mem_digits {bias k q : Nat} (h : c ∈ digits bias k q) : IsDigit c := by
  fun_induction digits bias k q with
  | case1 k q t ht =>
    have hbounds := threshold_bounds bias k
    exact ⟨q, by omega, (List.mem_singleton.mp h).symm⟩
  | case2 k q t ht ih =>
    have hbounds := threshold_bounds bias k
    have hrest : (q - t) % (36 - t) < 36 - t := Nat.mod_lt _ (by omega)
    rcases List.mem_cons.mp h with rfl | h
    · exact ⟨_, by omega, rfl⟩
    · exact ih h

end

/-! ## Numbers -/

theorem digitValue?_digitChar {d : Nat} (h : d < 36) : digitValue? (digitChar d) = some d := by
  have all : ∀ e ∈ List.range 36, digitValue? (digitChar e) = some e := by decide
  exact all d (List.mem_range.mpr h)

/-- The digits of a number are read as that number, whatever follows. -/
theorem readNumber_digits (bias k q i w : Nat) (rest : List Char) :
    readNumber bias k i w (digits bias k q ++ rest) = some (i + q * w, rest) := by
  fun_induction digits bias k q generalizing i w with
  | case1 k q t ht =>
    have hbounds := threshold_bounds bias k
    simp only [List.cons_append, List.nil_append, readNumber]
    rw [digitValue?_digitChar (by omega)]
    exact if_pos ht
  | case2 k q t ht ih =>
    have hbounds := threshold_bounds bias k
    have hrest : (q - t) % (36 - t) < 36 - t := Nat.mod_lt _ (by omega)
    have hback : (q - t) % (36 - t) + (36 - t) * ((q - t) / (36 - t)) = q - t := Nat.mod_add_div _ _
    simp only [List.cons_append, readNumber]
    rw [digitValue?_digitChar (by omega)]
    simp only
    rw [if_neg (by omega), ih]
    have hsum : (t + (q - t) % (36 - t)) + (q - t) / (36 - t) * (36 - t) = q := by
      rw [Nat.mul_comm ((q - t) / (36 - t))]
      omega
    congr 2
    calc i + (t + (q - t) % (36 - t)) * w + (q - t) / (36 - t) * (w * (36 - t))
        = i + ((t + (q - t) % (36 - t)) + (q - t) / (36 - t) * (36 - t)) * w := by
          rw [Nat.mul_comm w, ← Nat.mul_assoc, Nat.add_assoc, ← Nat.add_mul]
      _ = i + q * w := by rw [hsum]

/-! ## Steps -/

/-- The decoder goes `delta` steps from where it stands, and puts down what it finds there:
    `m` in front of the `place`-th of the characters that are down. -/
theorem decodeFrom_digits {n i m place delta : Nat} {out : List Nat} (bias : Nat) (hn : n ≤ m) (hm : m ≤ 0x10FFFF)
    (hplace : place ≤ out.length) (hsteps : i + delta = (m - n) * (out.length + 1) + place) (rest : List Char) :
    decodeFrom n i bias out (digits bias 36 delta ++ rest) =
      decodeFrom m (place + 1) (adapt delta (out.length + 1) (i == 0)) (insertAt out place m) rest := by
  have hread := readNumber_digits bias 36 delta i 1 rest
  have hne : digits bias 36 delta ++ rest ≠ [] := by
    intro hnil
    rw [hnil] at hread
    cases hread
  have hdiv : (i + delta) / (out.length + 1) = m - n := by
    rw [hsteps, Nat.mul_comm, Nat.mul_add_div (by omega), Nat.div_eq_of_lt (by omega), Nat.add_zero]
  have hmod : (i + delta) % (out.length + 1) = place := by
    rw [hsteps, Nat.mul_comm, Nat.mul_add_mod, Nat.mod_eq_of_lt (by omega)]
  rw [decodeFrom, if_neg hne]
  split
  · rename_i h
    rw [hread] at h
    cases h
  · rename_i j rest' h
    rw [hread, Nat.mul_one] at h
    cases h
    simp only
    rw [hdiv, hmod, show n + (m - n) = m by omega, if_neg (by omega), Nat.add_sub_cancel_left]

/-! ## The decoder keeps up -/

/-- The code points below `m`, with `m` itself as far as `passed`. -/
def soFar (m : Nat) (passed ahead : List Char) : List Nat :=
  (passed.filter (·.toNat ≤ m) ++ ahead.filter (·.toNat < m)).map Char.toNat

/-- Where the decoder stands when the encoder, which began with `start` and has written
    `p.out`, has `passed` behind it and the rest `ahead` in the round for `m`. -/
structure KeepsUp (ascii start : List Char) (m : Nat) (passed ahead : List Char) (p : Progress) : Prop where
  written : p.written = (soFar m passed ahead).length
  reads : ∃ n i code, p.out = start ++ code ∧ (∀ c ∈ code, IsDigit c) ∧ n ≤ m ∧
    i + p.delta = (m - n) * (p.written + 1) + (passed.filter (·.toNat ≤ m)).length ∧
    ((p.written == ascii.length) = (i == 0)) ∧ ascii.length ≤ p.written ∧
    ∀ rest, decodeFrom 128 0 72 (ascii.map Char.toNat) (code ++ rest) = decodeFrom n i p.bias (soFar m passed ahead) rest

namespace KeepsUp

variable {ascii start passed ahead s : List Char} {m n : Nat} {p : Progress}

/-- Steps that pass nothing to be written. -/
theorem advance {passed' ahead' : List Char} {delta : Nat} (h : KeepsUp ascii start n passed ahead p) (hm : n ≤ m)
    (hsame : soFar m passed' ahead' = soFar n passed ahead)
    (hdelta : delta + (passed.filter (·.toNat ≤ n)).length =
      p.delta + (m - n) * (p.written + 1) + (passed'.filter (·.toNat ≤ m)).length) :
    KeepsUp ascii start m passed' ahead' { p with delta } := by
  obtain ⟨hwritten, k, i, code, hout, hcode, hk, hsteps, hfirst, hascii, hreads⟩ := h
  refine ⟨by rw [hsame]; exact hwritten, k, i, code, hout, hcode, Nat.le_trans hk hm, ?_, hfirst, hascii, by rw [hsame]; exact hreads⟩
  have hsplit : m - k = (n - k) + (m - n) := by omega
  show i + delta = (m - k) * (p.written + 1) + _
  rw [hsplit, Nat.add_mul]
  omega

theorem visit {c : Char} (h : KeepsUp ascii start m passed (c :: ahead) p) :
    KeepsUp ascii start m (passed ++ [c]) ahead (Punycode.visit ascii.length m p c) := by
  unfold Punycode.visit
  split
  · rename_i hlt
    refine h.advance (Nat.le_refl _) (by simp [soFar, hlt, Nat.le_of_lt hlt]) ?_
    have hnext : (passed ++ [c]).filter (·.toNat ≤ m) = passed.filter (·.toNat ≤ m) ++ [c] := by
      simp [Nat.le_of_lt hlt]
    rw [hnext, List.length_append, List.length_singleton, Nat.sub_self, Nat.zero_mul]
    omega
  split
  · rename_i hlt heq
    obtain ⟨hwritten, n, i, code, hout, hcode, hn, hsteps, hfirst, hascii, hreads⟩ := h
    have hplace : (passed.filter (·.toNat ≤ m)).length ≤ (soFar m passed (c :: ahead)).length := by
      simp [soFar]
    have hinsert : insertAt (soFar m passed (c :: ahead)) (passed.filter (·.toNat ≤ m)).length m =
        soFar m (passed ++ [c]) ahead := by
      simp [insertAt, soFar, heq]
    have hnext : (passed ++ [c]).filter (·.toNat ≤ m) = passed.filter (·.toNat ≤ m) ++ [c] := by
      simp [heq]
    have hm : m ≤ 0x10FFFF := by
      have hc : c.toNat < 0xD800 ∨ 0xDFFF < c.toNat ∧ c.toNat < 0x110000 := c.valid
      omega
    have hlength : (soFar m (passed ++ [c]) ahead).length = p.written + 1 := by
      rw [hwritten]
      simp [soFar, heq]
      omega
    refine ⟨hlength.symm, m, (passed.filter (·.toNat ≤ m)).length + 1, code ++ digits p.bias 36 p.delta, ?_, ?_, Nat.le_refl _,
      ?_, ?_, ?_, ?_⟩
    · rw [hout, List.append_assoc]
    · intro d hd
      rcases List.mem_append.mp hd with hd | hd
      · exact hcode d hd
      · exact mem_digits hd
    · rw [hnext]
      simp
    · simp only [beq_eq_false_iff_ne.mpr (Nat.succ_ne_zero _)]
      exact beq_eq_false_iff_ne.mpr (by omega)
    · exact Nat.le_succ_of_le hascii
    · intro rest
      rw [List.append_assoc, hreads, decodeFrom_digits p.bias hn hm hplace (by rw [← hwritten]; exact hsteps), hinsert,
        ← hwritten, hfirst]
  · rename_i hlt heq
    have hgt : ¬ c.toNat ≤ m := by omega
    exact h.advance (Nat.le_refl _) (by simp [soFar, hlt, hgt]) (by simp [hgt])

theorem visits (ahead : List Char) {passed : List Char} {p : Progress} (h : KeepsUp ascii start m passed ahead p) :
    KeepsUp ascii start m (passed ++ ahead) [] (ahead.foldl (Punycode.visit ascii.length m) p) := by
  induction ahead generalizing passed p with
  | nil => simpa using h
  | cons c ahead ih =>
    have hrest := ih h.visit
    rwa [List.append_assoc] at hrest

/-- The way to the first place of a round for a later code point, with none in between. -/
theorem skip (h : KeepsUp ascii start n [] s p) (hm : n ≤ m) (hnone : ∀ c ∈ s, c.toNat < n ∨ m ≤ c.toNat) :
    KeepsUp ascii start m [] s { p with delta := p.delta + (m - n) * (p.written + 1) } := by
  have hsame : soFar m [] s = soFar n [] s := by
    unfold soFar
    congr 2
    apply List.filter_congr
    intro c hc
    have := hnone c hc
    rw [decide_eq_decide]
    omega
  exact h.advance hm hsame rfl

/-- When everything is passed, the next code point's round begins one step further. -/
theorem round (h : KeepsUp ascii start m s [] p) : KeepsUp ascii start (m + 1) [] s { p with delta := p.delta + 1 } := by
  have hsame : soFar (m + 1) [] s = soFar m s [] := by
    simp only [soFar, List.filter_nil, List.nil_append, List.append_nil, Nat.lt_succ_iff]
  have hall : (s.filter (·.toNat ≤ m)).length = (soFar m s []).length := by
    simp [soFar]
  refine h.advance (Nat.le_succ m) hsame ?_
  rw [hall, ← h.written, Nat.add_sub_cancel_left, List.filter_nil, List.length_nil]
  omega

/-- The rounds for all code points that are left. -/
theorem rounds {ms : List Nat} {n : Nat} {p : Progress} (h : KeepsUp ascii start n [] s p) (hfrom : ∀ m ∈ ms, n ≤ m)
    (hstrict : ms.Pairwise (· < ·)) (hmem : ∀ c ∈ s, n ≤ c.toNat → c.toNat ∈ ms) :
    ∃ last, KeepsUp ascii start last [] s (encodeFrom s ascii.length ms n p) ∧ ∀ c ∈ s, c.toNat < last := by
  induction ms generalizing n p with
  | nil =>
    refine ⟨n, h, fun c hc => ?_⟩
    by_cases hlt : c.toNat < n
    · exact hlt
    · cases hmem c hc (by omega)
  | cons m ms ih =>
    have hm : n ≤ m := hfrom m List.mem_cons_self
    have hlater : ∀ k ∈ ms, m < k := (List.pairwise_cons.mp hstrict).1
    have hskip := h.skip (m := m) hm fun c hc => by
      by_cases hlt : c.toNat < n
      · exact Or.inl hlt
      · rcases List.mem_cons.mp (hmem c hc (by omega)) with heq | hin
        · omega
        · have := hlater _ hin
          omega
    have hround := (hskip.visits s).round
    rw [List.nil_append] at hround
    unfold encodeFrom
    refine ih hround hlater (List.pairwise_cons.mp hstrict).2 fun c hc hle => ?_
    rcases List.mem_cons.mp (hmem c hc (by omega)) with heq | hin
    · omega
    · exact hin

end KeepsUp

/-! ## Sorted code points -/

theorem pairwise_eraseDups {ns : List Nat} (h : ns.Pairwise (· ≤ ·)) : ns.eraseDups.Pairwise (· < ·) := by
  induction hk : ns.length using Nat.strongRecOn generalizing ns with
  | _ k ih =>
    cases ns with
    | nil => exact List.Pairwise.nil
    | cons n ns =>
      rw [List.pairwise_cons] at h
      have hlength : (ns.filter fun m => !m == n).length < k := by
        rw [← hk]
        exact Nat.lt_succ_of_le (List.length_filter_le _ _)
      rw [List.eraseDups_cons, List.pairwise_cons]
      refine ⟨fun m hm => ?_, ih _ hlength (h.2.filter _) rfl⟩
      rw [List.mem_eraseDups, List.mem_filter] at hm
      have hle := h.1 m hm.1
      have hne : m ≠ n := by simpa using hm.2
      omega

theorem eraseDups_of_pairwise {ns : List Nat} (h : ns.Pairwise (· < ·)) : ns.eraseDups = ns := by
  induction ns with
  | nil => rfl
  | cons n ns ih =>
    rw [List.pairwise_cons] at h
    have hkeep : ns.filter (fun m => !m == n) = ns := by
      refine List.filter_eq_self.mpr fun m hm => ?_
      have := h.1 m hm
      simp
      omega
    rw [List.eraseDups_cons, hkeep, ih h.2]

theorem pairwise_mergeSort_le (ns : List Nat) : ns.mergeSort.Pairwise (· ≤ ·) := by
  have h := @List.pairwise_mergeSort _ (fun a b : Nat => decide (a ≤ b))
    (by simp only [decide_eq_true_eq]; omega) (by simp only [Bool.or_eq_true, decide_eq_true_eq]; omega) ns
  exact h.imp of_decide_eq_true

/-! ## All together -/

theorem toChar?_eq_some {n : Nat} {c : Char} : toChar? n = some c ↔ c.toNat = n := by
  unfold toChar?
  by_cases h : n.isValidChar
  · rw [dif_pos h, Option.some.injEq]
    constructor
    · rintro rfl
      rfl
    · rintro rfl
      rfl
  · rw [dif_neg h]
    constructor
    · intro hnone
      cases hnone
    · rintro rfl
      exact absurd c.valid h

theorem mapM_toChar? (s : List Char) : (s.map Char.toNat).mapM toChar? = some s :=
  mapM_map_of_forall fun _ _ => toChar?_eq_some.mpr rfl

/-- The two parts of what is written: the ASCII characters, and a code that stands for the
    others. -/
theorem encode_parts (s : List Char) : ∃ code : List Char, (∀ c ∈ code, IsDigit c) ∧
    encode s = (if s.filter (·.toNat < 128) = [] then [] else s.filter (·.toNat < 128) ++ ['-']) ++ code ∧
    decodeFrom 128 0 72 ((s.filter (·.toNat < 128)).map Char.toNat) code = some (s.map Char.toNat) := by
  let ascii := s.filter (·.toNat < 128)
  let others := ((s.map Char.toNat).filter (128 ≤ ·)).mergeSort.eraseDups
  let start := if ascii = [] then [] else ascii ++ ['-']
  have hmem {n : Nat} : n ∈ others ↔ (∃ c ∈ s, c.toNat = n) ∧ 128 ≤ n := by
    simp [others, List.mem_eraseDups]
  have hstrict : others.Pairwise (· < ·) := pairwise_eraseDups (pairwise_mergeSort_le _)
  have hfirst : KeepsUp ascii start 128 [] s ⟨start, 0, 72, ascii.length⟩ := by
    refine ⟨by simp [soFar, ascii], 128, 0, [], by simp, nofun, Nat.le_refl _, by simp, by simp, Nat.le_refl _, fun rest => ?_⟩
    simp [soFar, ascii]
  obtain ⟨last, hlast, hall⟩ := hfirst.rounds (fun m hm => (hmem.mp hm).2) hstrict
    fun c hc hle => hmem.mpr ⟨⟨c, hc, rfl⟩, hle⟩
  obtain ⟨n, i, code, hout, hcode, -, -, -, -, hreads⟩ := hlast.reads
  have hdone : soFar last [] s = s.map Char.toNat := by
    unfold soFar
    rw [List.filter_nil, List.nil_append, List.filter_eq_self.mpr fun c hc => decide_eq_true (hall c hc)]
  refine ⟨code, hcode, hout, ?_⟩
  rw [← List.append_nil code, hreads, hdone, decodeFrom, if_pos rfl]

/-- What is added to the ASCII characters are small letters, digits and hyphens. -/
theorem mem_encode {c : Char} {s : List Char} (h : c ∈ encode s) : (c ∈ s ∧ c.toNat < 128) ∨ c = '-' ∨ IsDigit c := by
  obtain ⟨code, hcode, hencode, -⟩ := encode_parts s
  rw [hencode] at h
  rcases List.mem_append.mp h with h | h
  · split at h
    · cases h
    · rcases List.mem_append.mp h with h | h
      · have h := List.mem_filter.mp h
        exact Or.inl ⟨h.1, of_decide_eq_true h.2⟩
      · exact Or.inr (Or.inl (List.mem_singleton.mp h))
  · exact Or.inr (Or.inr (hcode c h))

theorem decode?_encode (s : List Char) : decode? (encode s) = some s := by
  obtain ⟨code, hcode, hencode, hdecode⟩ := encode_parts s
  have hhyphen : ∀ c ∈ code.reverse, decide (c ≠ '-') = true := by
    intro c hc
    rw [decide_eq_true_eq]
    exact isDigit_ne_hyphen (hcode c (List.mem_reverse.mp hc))
  unfold decode?
  simp only
  by_cases hascii : s.filter (·.toNat < 128) = []
  · rw [if_pos hascii, List.nil_append] at hencode
    rw [hascii, List.map_nil] at hdecode
    have htail : (code.reverse.takeWhile (· ≠ '-')).reverse = code := by
      have hexact := @takeWhile_exact _ _ code.reverse [] hhyphen nofun
      rw [List.append_nil] at hexact
      rw [hexact, List.reverse_reverse]
    rw [hencode, htail, show code.length - code.length - 1 = 0 by omega, List.take_zero, if_pos rfl, hdecode]
    exact mapM_toChar? s
  · rw [if_neg hascii, List.append_assoc] at hencode
    have htail : ((s.filter (·.toNat < 128) ++ (['-'] ++ code)).reverse.takeWhile (· ≠ '-')).reverse = code := by
      rw [List.reverse_append, List.reverse_append, List.append_assoc,
        takeWhile_exact hhyphen (by rintro c ⟨⟩; rfl), List.reverse_reverse]
    have hfront : (s.filter (·.toNat < 128) ++ (['-'] ++ code)).length - code.length - 1 = (s.filter (·.toNat < 128)).length := by
      simp only [List.length_append, List.length_singleton]
      omega
    have hsmall : ¬ ((s.filter (·.toNat < 128)).any (128 ≤ ·.toNat)) = true := by
      simp
    rw [hencode, htail, hfront, List.take_left', if_neg hascii, if_neg hsmall, hdecode]
    · exact mapM_toChar? s
    · rfl

/-! ## What is read -/

theorem mem_decodeFrom {n i bias : Nat} {out : List Nat} {s : List Char} {ns : List Nat} (hn : 128 ≤ n)
    (h : decodeFrom n i bias out s = some ns) : ∀ m ∈ ns, m ∈ out ∨ 128 ≤ m := by
  induction hk : s.length using Nat.strongRecOn generalizing n i bias out s with
  | _ k ih =>
    rw [decodeFrom] at h
    split at h
    · cases h
      exact fun m hm => Or.inl hm
    split at h
    · cases h
    · rename_i j rest hread
      simp only at h
      split at h
      · cases h
      intro m hm
      have hlater := ih rest.length (hk ▸ readNumber_length_lt hread) (Nat.le_trans hn (Nat.le_add_right n _)) h rfl m hm
      unfold insertAt at hlater
      rw [List.mem_append, List.mem_cons] at hlater
      rcases hlater with (hm | rfl | hm) | hm
      · exact Or.inl (List.mem_of_mem_take hm)
      · exact Or.inr (Nat.le_trans hn (Nat.le_add_right n _))
      · exact Or.inl (List.mem_of_mem_drop hm)
      · exact Or.inr hm

theorem mem_mapM_toChar? {ns : List Nat} {s : List Char} (h : ns.mapM toChar? = some s) : ∀ c ∈ s, c.toNat ∈ ns := by
  intro c hc
  obtain ⟨n, hn, hchar⟩ := (mem_mapM h).2 c hc
  rwa [toChar?_eq_some.mp hchar]

theorem mem_decode? {code s : List Char} (h : decode? code = some s) : ∀ c ∈ s, c ∈ code ∨ 128 ≤ c.toNat := by
  intro c hc
  unfold decode? at h
  simp only at h
  split at h
  · obtain ⟨ns, hdecode, hs⟩ := Option.bind_eq_some_iff.mp h
    rcases mem_decodeFrom (Nat.le_refl 128) hdecode _ (mem_mapM_toChar? hs c hc) with hmem | hlarge
    · cases hmem
    · exact Or.inr hlarge
  split at h
  · cases h
  · obtain ⟨ns, hdecode, hs⟩ := Option.bind_eq_some_iff.mp h
    rcases mem_decodeFrom (Nat.le_refl 128) hdecode _ (mem_mapM_toChar? hs c hc) with hmem | hlarge
    · obtain ⟨d, hd, heq⟩ := List.mem_map.mp hmem
      exact Or.inl (Char.toNat_inj.mp heq ▸ List.mem_of_mem_take hd)
    · exact Or.inr hlarge

/-! ## Lengths -/

theorem digits_ne_nil (bias k q : Nat) : digits bias k q ≠ [] := by
  rw [digits]
  split <;> exact List.cons_ne_nil _ _

/-- Two digits reach no further than 910. -/
theorem three_le_length_digits {q : Nat} (h : 911 ≤ q) (bias k : Nat) : 3 ≤ (digits bias k q).length := by
  have hfirst := threshold_bounds bias k
  have hsecond := threshold_bounds bias (k + 36)
  have hpositive : 0 < 36 - threshold bias k := by omega
  have hquotient : 26 ≤ (q - threshold bias k) / (36 - threshold bias k) := by
    rw [Nat.le_div_iff_mul_le hpositive]
    omega
  have hrest := List.length_pos_iff.mpr (digits_ne_nil bias (k + 36 + 36)
    (((q - threshold bias k) / (36 - threshold bias k) - threshold bias (k + 36)) / (36 - threshold bias (k + 36))))
  rw [digits, if_neg (by omega), digits, if_neg (by omega), List.length_cons, List.length_cons]
  omega

section
variable {basic m : Nat} {s : List Char} {p : Progress}

/-- Passing over characters takes nothing back. -/
theorem visits_grow (s : List Char) (p : Progress) :
    p.written ≤ (s.foldl (visit basic m) p).written ∧ p.out.length ≤ (s.foldl (visit basic m) p).out.length := by
  induction s generalizing p with
  | nil => exact ⟨Nat.le_refl _, Nat.le_refl _⟩
  | cons c s ih =>
    have hvisit : p.written ≤ (visit basic m p c).written ∧ p.out.length ≤ (visit basic m p c).out.length := by
      unfold visit
      split
      · exact ⟨Nat.le_refl _, Nat.le_refl _⟩
      · split
        · exact ⟨Nat.le_succ _, by simp⟩
        · exact ⟨Nat.le_refl _, Nat.le_refl _⟩
    exact ⟨Nat.le_trans hvisit.1 (ih _).1, Nat.le_trans hvisit.2 (ih _).2⟩

/-- The code point of a round is written, with three digits if it was a long way to it. -/
theorem visits_write (hm : ∃ c ∈ s, c.toNat = m) :
    p.written + 1 ≤ (s.foldl (visit basic m) p).written ∧
      (911 ≤ p.delta → p.out.length + 3 ≤ (s.foldl (visit basic m) p).out.length) := by
  induction s generalizing p with
  | nil =>
    obtain ⟨c, hc, -⟩ := hm
    cases hc
  | cons c s ih =>
    rw [List.foldl_cons]
    by_cases hc : c.toNat = m
    · have hvisit : visit basic m p c =
          ⟨p.out ++ digits p.bias 36 p.delta, 0, adapt p.delta (p.written + 1) (p.written == basic), p.written + 1⟩ := by
        rw [visit, if_neg (by omega), if_pos hc]
      have hgrow := @visits_grow basic m s (visit basic m p c)
      rw [hvisit] at hgrow ⊢
      refine ⟨hgrow.1, fun hdelta => ?_⟩
      have hdigits := three_le_length_digits hdelta p.bias 36
      have hout := hgrow.2
      rw [List.length_append] at hout
      omega
    · have hrest : ∃ d ∈ s, d.toNat = m := by
        obtain ⟨d, hd, heq⟩ := hm
        rcases List.mem_cons.mp hd with rfl | hd
        · exact absurd heq hc
        · exact ⟨d, hd, heq⟩
      have hvisit : (visit basic m p c).written = p.written ∧ (visit basic m p c).out = p.out ∧ p.delta ≤ (visit basic m p c).delta := by
        unfold visit
        split
        · exact ⟨rfl, rfl, Nat.le_succ _⟩
        · exact ⟨rfl, rfl, Nat.le_refl _⟩
      have ih := @ih (visit basic m p c) hrest
      rw [hvisit.1, hvisit.2.1] at ih
      exact ⟨ih.1, fun hdelta => ih.2 (Nat.le_trans hdelta hvisit.2.2)⟩

end

/-- Each code point that stands `gap` behind the one before takes three digits, but for the
    first `wait`: the way to it is counted once for every character written. -/
theorem rounds_length {gap wait : Nat} (hfar : 911 ≤ gap * (wait + 1)) {s : List Char} {basic : Nat} {ms : List Nat}
    (hmem : ∀ m ∈ ms, ∃ c ∈ s, c.toNat = m) (hgap : ms.Pairwise fun a b => a + gap < b) {n : Nat} (hnext : ∀ m ∈ ms, n + gap ≤ m)
    (p : Progress) : p.out.length + 3 * (ms.length - (wait - p.written)) ≤ (encodeFrom s basic ms n p).out.length := by
  induction ms generalizing n p with
  | nil => simp [encodeFrom]
  | cons m ms ih =>
    rw [List.forall_mem_cons] at hmem hnext
    rw [List.pairwise_cons] at hgap
    unfold encodeFrom
    dsimp only
    let start : Progress := { p with delta := p.delta + (m - n) * (p.written + 1) }
    have hwrite := @visits_write basic m s start hmem.1
    have hgrow := (@visits_grow basic m s start).2
    have hrest := ih hmem.2 hgap.2 (n := m + 1) (fun k hk => by have := hgap.1 k hk; omega)
      { s.foldl (visit basic m) start with delta := (s.foldl (visit basic m) start).delta + 1 }
    have hwritten : p.written + 1 ≤ (s.foldl (visit basic m) start).written := hwrite.1
    have hout : p.out.length ≤ (s.foldl (visit basic m) start).out.length := hgrow
    refine Nat.le_trans ?_ hrest
    show _ ≤ (s.foldl (visit basic m) start).out.length + 3 * (ms.length - (wait - (s.foldl (visit basic m) start).written))
    rw [List.length_cons]
    by_cases hwait : wait ≤ p.written
    · have hdelta : 911 ≤ start.delta := by
        have hproduct : gap * (wait + 1) ≤ (m - n) * (p.written + 1) := Nat.mul_le_mul (by omega) (by omega)
        show 911 ≤ p.delta + (m - n) * (p.written + 1)
        omega
      have hthree : p.out.length + 3 ≤ (s.foldl (visit basic m) start).out.length := hwrite.2 hdelta
      omega
    · omega

/-- The Punycode of characters whose code points ascend in wide steps. -/
theorem length_encode_ge {gap wait : Nat} (hfar : 911 ≤ gap * (wait + 1)) {s : List Char}
    (hgap : (s.map Char.toNat).Pairwise fun a b => a + gap < b) (hfirst : ∀ c ∈ s, 128 + gap ≤ c.toNat) :
    3 * (s.length - wait) ≤ (encode s).length := by
  have hhigh : (s.map Char.toNat).filter (128 ≤ ·) = s.map Char.toNat := by
    refine List.filter_eq_self.mpr fun n hn => ?_
    obtain ⟨c, hc, rfl⟩ := List.mem_map.mp hn
    have := hfirst c hc
    simp
    omega
  have hsorted : ((s.map Char.toNat).filter (128 ≤ ·)).mergeSort.eraseDups = s.map Char.toNat := by
    rw [hhigh, List.mergeSort_of_pairwise, eraseDups_of_pairwise]
    · exact hgap.imp (by omega)
    · exact hgap.imp fun hab => by simp; omega
  have hascii : s.filter (·.toNat < 128) = [] := by
    refine List.filter_eq_nil_iff.mpr fun c hc => ?_
    have := hfirst c hc
    simp
    omega
  have hrounds := @rounds_length gap wait hfar s 0 (s.map Char.toNat) (by simp) hgap 128
    (fun n hn => by
      obtain ⟨c, hc, rfl⟩ := List.mem_map.mp hn
      exact hfirst c hc) ⟨[], 0, 72, 0⟩
  unfold encode
  simp only [hsorted, hascii]
  simpa using hrounds

end NumberRegistry.Url.Punycode
