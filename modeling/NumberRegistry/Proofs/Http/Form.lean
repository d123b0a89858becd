/-
  NumberRegistry.Proofs.Http.Form — a query gives back the pairs it was written from.

  Neither separator stands in what a key or a value is written as (`separators_notMem`),
  so each `&` and each first `=` is one that was put there. Within a part, `+` can only be
  a space, and everything else is itself or percent-encoded.
-/
import NumberRegistry.Http.Form
import NumberRegistry.Proofs.Text.Parts
import NumberRegistry.Proofs.Text.Utf8

namespace NumberRegistry.Http.Form

open Text

/-! ## Parts -/

/-- The characters that stand for themselves mean nothing else to the reader. -/
theorem ne_of_isPlain {c d : Char} (h : isPlain c = true) (hd : isPlain d = false) : c ≠ d := by
  rintro rfl
  rw [h] at hd
  cases hd

/-- What a byte is written as: a percent sign and two digits. -/
theorem mem_encodeByte {b : UInt8} {c : Char} (h : c ∈ Percent.encodeByte b) :
    c = '%' ∨ isPlain c = true := by
  have hb : b.toNat < 256 := b.toNat_lt
  have digits : ∀ n ∈ List.range 16, isPlain (Percent.hexDigit n) = true := by decide
  simp only [Percent.encodeByte, List.mem_cons, List.not_mem_nil, or_false] at h
  rcases h with rfl | rfl | rfl
  · exact Or.inl rfl
  · exact Or.inr (digits _ (List.mem_range.mpr (by omega)))
  · exact Or.inr (digits _ (List.mem_range.mpr (by omega)))

theorem isPlain_of_isDigit {c : Char} (h : c.isDigit = true) : isPlain c = true := by
  simp [isPlain, Char.isAlphanum, h]

theorem mem_encodeChar {c d : Char} (h : d ∈ encodeChar c) : d = '+' ∨ d = '%' ∨ isPlain d = true := by
  unfold encodeChar Percent.encodeChar at h
  split at h
  · exact Or.inl (by simpa using h)
  split at h
  · obtain ⟨b, -, hd⟩ := List.mem_flatMap.mp h
    exact Or.inr (mem_encodeByte hd)
  · rename_i hplain
    obtain rfl := List.mem_singleton.mp h
    exact Or.inr (Or.inr (by simpa using hplain))

theorem separators_notMem (s : String) : '&' ∉ encodePart s ∧ '=' ∉ encodePart s := by
  constructor
  all_goals
    intro h
    obtain ⟨c, -, hc⟩ := List.mem_flatMap.mp h
    exact absurd (mem_encodeChar hc) (by decide)

theorem map_plusToSpace_encodeBytes (bs : Utf8.Bytes) :
    (bs.flatMap Percent.encodeByte).map plusToSpace = bs.flatMap Percent.encodeByte := by
  refine (List.map_congr_left fun c hc => ?_).trans (List.map_id _)
  obtain ⟨b, -, hc⟩ := List.mem_flatMap.mp hc
  have hne : c ≠ '+' := by
    rintro rfl
    exact absurd (mem_encodeByte hc) (by decide)
  exact if_neg hne

theorem decode_encodeChar (c : Char) (rest : List Char) :
    Percent.decode ((encodeChar c).map plusToSpace ++ rest) = String.utf8EncodeChar c ++ Percent.decode rest := by
  unfold encodeChar Percent.encodeChar
  split
  · rename_i h
    subst h
    exact Percent.decode_cons (by decide) rest
  split
  · rw [map_plusToSpace_encodeBytes, Percent.decode_encodeBytes]
  · rename_i hplain
    have hplain : isPlain c = true := by simpa using hplain
    rw [List.map_singleton, plusToSpace, if_neg (ne_of_isPlain hplain (by decide))]
    exact Percent.decode_cons (ne_of_isPlain hplain (by decide)) rest

theorem decodePart_encodePart (s : String) : decodePart (encodePart s) = s := by
  have hbytes : ∀ cs : List Char, Percent.decode ((cs.flatMap encodeChar).map plusToSpace) = Utf8.encode cs := by
    intro cs
    induction cs with
    | nil => rfl
    | cons c cs ih => rw [List.flatMap_cons, List.map_append, decode_encodeChar, ih]; rfl
  rw [decodePart, encodePart, hbytes, Utf8.decodeLossy_encode, String.ofList_toList]

theorem encodeChar_plain {c : Char} (h : isPlain c = true) : encodeChar c = [c] := by
  simp [encodeChar, Percent.encodeChar, h, ne_of_isPlain (d := ' ') h (by decide)]

theorem encodePart_plain {s : String} (h : ∀ c ∈ s.toList, isPlain c = true) : encodePart s = s.toList := by
  rw [encodePart]
  generalize s.toList = cs at h
  induction cs with
  | nil => rfl
  | cons c cs ih =>
    rw [List.flatMap_cons, encodeChar_plain (h c List.mem_cons_self), ih fun d hd => h d (List.mem_cons_of_mem _ hd)]
    rfl

/-! ## Pairs -/

theorem decodePair_encodePair (p : String × String) : decodePair (encodePair p) = p := by
  have hkey : ∀ c ∈ encodePart p.1, decide (c ≠ '=') = true := fun c hc =>
    decide_eq_true fun h => (separators_notMem p.1).2 (h ▸ hc)
  have hvalue : ∀ c ∈ ('=' :: encodePart p.2).head?, decide (c ≠ '=') = false := by rintro c ⟨⟩; rfl
  rw [decodePair, encodePair, takeWhile_exact hkey hvalue, dropWhile_exact hkey hvalue, List.drop_succ_cons,
    List.drop_zero, decodePart_encodePart, decodePart_encodePart]

theorem encode_plain {key value : String} (hk : ∀ c ∈ key.toList, isPlain c = true)
    (hv : ∀ c ∈ value.toList, isPlain c = true) :
    encode [(key, value)] = String.ofList (key.toList ++ '=' :: value.toList) := by
  simp [encode, encodePair, encodePart_plain hk, encodePart_plain hv, List.intercalate_singleton]

theorem separator_notMem_pair (p : String × String) : '&' ∉ encodePair p := by
  simp [encodePair, (separators_notMem p.1).1, (separators_notMem p.2).1]

theorem splitOn_of_notMem {sep : Char} {w : List Char} (h : sep ∉ w) : splitOn sep w = [w] := by
  induction w with
  | nil => rfl
  | cons c w ih =>
    simp only [List.mem_cons, not_or] at h
    rw [splitOn, if_neg (Ne.symm h.1), ih h.2]

theorem splitOn_append {sep : Char} {w : List Char} (h : sep ∉ w) (rest : List Char) :
    splitOn sep (w ++ sep :: rest) = w :: splitOn sep rest := by
  induction w with
  | nil => simp [splitOn]
  | cons c w ih =>
    simp only [List.mem_cons, not_or] at h
    rw [List.cons_append, splitOn, if_neg (Ne.symm h.1), ih h.2]

theorem splitOn_intercalate {sep : Char} : ∀ {ws : List (List Char)}, ws ≠ [] → (∀ w ∈ ws, sep ∉ w) →
    splitOn sep ([sep].intercalate ws) = ws
  | [w], _, h => by
    rw [List.intercalate_singleton]
    exact splitOn_of_notMem (h w List.mem_cons_self)
  | w :: v :: ws, _, h => by
    rw [List.intercalate_cons_cons, List.append_assoc, List.singleton_append,
      splitOn_append (h w List.mem_cons_self),
      splitOn_intercalate (List.cons_ne_nil _ _) fun x hx => h x (List.mem_cons_of_mem _ hx)]

/-- Reading what pairs are written as gives the pairs, whatever their keys and values. -/
theorem decode_encode (pairs : List (String × String)) : decode (encode pairs) = pairs := by
  cases pairs with
  | nil => rfl
  | cons p ps =>
    have hsplit : splitOn '&' ((['&'] : List Char).intercalate ((p :: ps).map encodePair)) = (p :: ps).map encodePair :=
      splitOn_intercalate (List.cons_ne_nil _ _) fun w hw => by
        obtain ⟨q, -, rfl⟩ := List.mem_map.mp hw
        exact separator_notMem_pair q
    have hkeep : ((p :: ps).map encodePair).filter (· ≠ []) = (p :: ps).map encodePair :=
      List.filter_eq_self.mpr fun w hw => by
        obtain ⟨q, -, rfl⟩ := List.mem_map.mp hw
        simp [encodePair]
    rw [decode, encode, String.toList_ofList, hsplit, hkeep, List.map_map]
    exact List.map_id'' decodePair_encodePair _

end NumberRegistry.Http.Form
