/-
  NumberRegistry.Proofs.Text.Utf8 — what is encoded is read back.

  A character's bytes, with any bytes behind them, begin with that character
  (`front_encodeChar`). So both readers give an encoded text back: the strict one
  (`decode?_encode`) and the one that would put U+FFFD for faults (`decodeLossy_encode`).
-/
import NumberRegistry.Text.Utf8

namespace NumberRegistry.Text.Utf8

/-! ## The first byte -/

theorem Lead.ofByte?_two {n : Nat} (h : 0xC2 ≤ n ∧ n ≤ 0xDF) :
    Lead.ofByte? n = some { need := 1, bits := n - 0xC0 } := by
  simp [Lead.ofByte?, h, show ¬ n < 0x80 by omega]

/-- The bounds of the second byte keep out overlong forms below, and surrogates above. -/
theorem Lead.ofByte?_three {n : Nat} (h : 0xE0 ≤ n ∧ n ≤ 0xEF) :
    Lead.ofByte? n = some { need := 2, lo := if n = 0xE0 then 0xA0 else 0x80,
                            hi := if n = 0xED then 0x9F else 0xBF, bits := n - 0xE0 } := by
  obtain ⟨k, rfl⟩ := Nat.exists_eq_add_of_le h.1
  have all : ∀ k ∈ List.range 16, Lead.ofByte? (0xE0 + k) =
      some { need := 2, lo := if 0xE0 + k = 0xE0 then 0xA0 else 0x80,
             hi := if 0xE0 + k = 0xED then 0x9F else 0xBF, bits := 0xE0 + k - 0xE0 } := by
    simp only [List.range, List.range.loop, List.forall_mem_cons]
    simp [Lead.ofByte?]
  exact all k (List.mem_range.mpr (by omega))

/-- Here they keep out overlong forms below, and numbers above U+10FFFF. -/
theorem Lead.ofByte?_four {n : Nat} (h : 0xF0 ≤ n ∧ n ≤ 0xF4) :
    Lead.ofByte? n = some { need := 3, lo := if n = 0xF0 then 0x90 else 0x80,
                            hi := if n = 0xF4 then 0x8F else 0xBF, bits := n - 0xF0 } := by
  obtain ⟨k, rfl⟩ := Nat.exists_eq_add_of_le h.1
  have all : ∀ k ∈ List.range 5, Lead.ofByte? (0xF0 + k) =
      some { need := 3, lo := if 0xF0 + k = 0xF0 then 0x90 else 0x80,
             hi := if 0xF0 + k = 0xF4 then 0x8F else 0xBF, bits := 0xF0 + k - 0xF0 } := by
    simp only [List.range, List.range.loop, List.forall_mem_cons]
    simp [Lead.ofByte?]
  exact all k (List.mem_range.mpr (by omega))

/-! ## A character -/

theorem toNat_ofNat {n : Nat} (h : n < 256) : (UInt8.ofNat n).toNat = n := UInt8.toNat_ofNat_of_lt' h

theorem continuation_cons {need lo hi acc seen b : Nat} (hb : b < 64) (hlo : lo ≤ b + 0x80) (hhi : b + 0x80 ≤ hi)
    (rest : Bytes) :
    continuation (need + 1) lo hi acc seen (UInt8.ofNat (b + 0x80) :: rest) =
      continuation need 0x80 0xBF (acc * 64 + b) (seen + 1) rest := by
  rw [continuation, toNat_ofNat (by omega), if_pos ⟨hlo, hhi⟩, Nat.add_sub_cancel]

/-- The bytes of a character are read as that character. -/
theorem front_encodeChar (c : Char) (rest : Bytes) :
    ∃ b bs, String.utf8EncodeChar c = b :: bs ∧ front b (bs ++ rest) = .char c rest := by
  have hchar : c.val.toNat < 0xD800 ∨ 0xDFFF < c.val.toNat ∧ c.val.toNat < 0x110000 := c.valid
  have hback : Char.ofNat c.val.toNat = c := Char.ofNat_toNat c
  simp only [String.utf8EncodeChar]
  generalize c.val.toNat = v at hchar hback ⊢
  split
  · refine ⟨_, _, rfl, ?_⟩
    rw [front, toNat_ofNat (by omega)]
    simp [Lead.ofByte?, show v < 0x80 by omega, continuation, hback]
  split
  · refine ⟨_, _, rfl, ?_⟩
    rw [front, toNat_ofNat (by omega), Lead.ofByte?_two (by omega)]
    simp only [List.cons_append, List.nil_append]
    rw [continuation_cons (by omega) (by omega) (by omega), continuation,
      show (v / 64 % 32 + 192 - 192) * 64 + v % 64 = v by omega, hback]
  split
  · refine ⟨_, _, rfl, ?_⟩
    rw [front, toNat_ofNat (by omega), Lead.ofByte?_three (by omega)]
    simp only [List.cons_append, List.nil_append]
    rw [continuation_cons (by omega) (by split <;> omega) (by split <;> omega),
      continuation_cons (by omega) (by omega) (by omega), continuation,
      show ((v / 4096 % 16 + 224 - 224) * 64 + v / 64 % 64) * 64 + v % 64 = v by omega, hback]
  · refine ⟨_, _, rfl, ?_⟩
    rw [front, toNat_ofNat (by omega), Lead.ofByte?_four (by omega)]
    simp only [List.cons_append, List.nil_append]
    rw [continuation_cons (by omega) (by split <;> omega) (by split <;> omega),
      continuation_cons (by omega) (by omega) (by omega), continuation_cons (by omega) (by omega) (by omega),
      continuation,
      show (((v / 262144 % 8 + 240 - 240) * 64 + v / 4096 % 64) * 64 + v / 64 % 64) * 64 + v % 64 = v by omega,
      hback]

/-! ## A text -/

theorem decodeLossy_cons (c : Char) (rest : Bytes) :
    decodeLossy (String.utf8EncodeChar c ++ rest) = c :: decodeLossy rest := by
  obtain ⟨b, bs, hc, hfront⟩ := front_encodeChar c rest
  rw [hc, List.cons_append, decodeLossy]
  split
  · rename_i h; rw [hfront] at h; cases h; rfl
  · rename_i h; rw [hfront] at h; cases h
  · rename_i h; rw [hfront] at h; cases h

theorem decodeLossy_encode (s : List Char) : decodeLossy (encode s) = s := by
  induction s with
  | nil => simp [encode, decodeLossy]
  | cons c s ih =>
    rw [encode, List.flatMap_cons, decodeLossy_cons]
    exact congrArg (c :: ·) ih

theorem decodeFrom_cons (index : Nat) (c : Char) (rest : Bytes) :
    decodeFrom index (String.utf8EncodeChar c ++ rest) =
      (decodeFrom (index + c.utf8Size) rest).map (c :: ·) := by
  obtain ⟨b, bs, hc, hfront⟩ := front_encodeChar c rest
  rw [hc, List.cons_append, decodeFrom]
  split
  · rename_i h; rw [hfront] at h; cases h; rfl
  · rename_i h; rw [hfront] at h; cases h
  · rename_i h; rw [hfront] at h; cases h

theorem decodeFrom_encode (index : Nat) (s : List Char) : decodeFrom index (encode s) = .ok s := by
  induction s generalizing index with
  | nil => simp [encode, decodeFrom]
  | cons c s ih =>
    rw [encode, List.flatMap_cons, decodeFrom_cons]
    change (decodeFrom (index + c.utf8Size) (encode s)).map (c :: ·) = _
    rw [ih]; rfl

theorem decode?_encode (s : List Char) : decode? (encode s) = .ok s := decodeFrom_encode 0 s

end NumberRegistry.Text.Utf8
