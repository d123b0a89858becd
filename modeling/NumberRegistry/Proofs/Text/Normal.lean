/-
  NumberRegistry.Proofs.Text.Normal — the normal form of a text is its own normal form.

  Taking apart, sorting marks and composing change a text only within its canonical
  equivalence. `Same` says of two lists that their characters of class 0 stand in one
  order, and those of any other class in one order with them; sorting keeps this
  (`same_orderMarks`), a list that is sorted is the only one of its kind
  (`Ordered.eq_of_same`), and taking apart what was composed gives back what it was
  composed of (`same_composeAll`). So the normal form of a normal form is the same text
  (`nfc_nfc`), and so are its pieces between full stops (`nfc_append_dot`).

  What the tables have to do with this is found by going over them once
  (`decompositions_ok`, `combiningClasses_ok`).
-/
import Mathlib.Data.List.Basic
import NumberRegistry.Proofs.Text.Ranges
import NumberRegistry.Text.Normal

namespace NumberRegistry.Text.Normal

/-! ## The table -/

/-- The character does not come apart. -/
def Whole (n : Nat) : Prop := isSyllable n = false ∧ entries.find? (·.char == n) = none

/-- It takes at most `k` rounds to take the character apart. -/
inductive Within : (k : Nat) → (n : Nat) → Prop
  | whole {k n : Nat} (h : Whole n) : Within k n
  | entry {k : Nat} {e : Entry} (he : e ∈ entries) (h : ∀ p ∈ e.parts, Within k p) : Within (k + 1) e.char

/-- Adds the entries of which all parts are known. -/
def adopt (es : List Entry) (known : Nat) : Nat :=
  known ||| bits ((es.filter fun e => e.parts.all known.testBit).map (·.char))

/-- Code points of ideographs. -/
def isIdeograph (n : Nat) : Bool := 0x4E00 ≤ n && n < 0xA000

/-- One entry: it is neither Latin 1's first part nor Hangul nor a surrogate nor an
    ideograph; what it comes apart into stands behind the full stop, and a second part
    where entries may stand. -/
def entryOk (e : Entry) : Bool :=
  (0xC0 ≤ e.char && e.char < 0x1100 || 0x11C3 ≤ e.char && e.char < 0xAC00 || 0xDFFF < e.char && e.char < 0x110000) &&
    e.parts.all (fun p => 0x2E < p && p < 0xAC00 || 0xDFFF < p && p < 0x110000) &&
    (e.parts.drop 1).all (fun p => 0xC0 ≤ p && !isIdeograph p) && !isIdeograph e.char

def tableOk (r : Labels) : Bool :=
  let es := entriesFrom 0 r
  let table := bits (es.map (·.char))
  let whole := bits ((es.flatMap (·.parts)).filter fun p => !table.testBit p)
  let known := adopt es (adopt es whole)
  r.all (0 < ·.1) && es.all (fun e => entryOk e && e.parts.all known.testBit)

set_option maxRecDepth 2000 in
theorem decompositions_ok : tableOk decompositions = true := by
  have h : ∃ lines texts, decompositions = Labels.ofLines lines ∧ Labels.Spelt lines texts ∧
      tableOk (Labels.ofTexts texts) = true :=
    ⟨_, _, rfl, by repeat constructor, by decide +kernel⟩
  obtain ⟨lines, texts, hlines, hspelt, hok⟩ := h
  rw [hlines, hspelt.ofLines]
  exact hok

theorem entriesFrom_increasing {r : Labels} {last : Nat} (h : r.all (0 < ·.1) = true) :
    (∀ e ∈ entriesFrom last r, last < e.char) ∧ (entriesFrom last r).Pairwise (·.char < ·.char) := by
  induction r generalizing last with
  | nil => exact ⟨nofun, List.Pairwise.nil⟩
  | cons run runs ih =>
    obtain ⟨gap, label⟩ := run
    simp only [List.all_cons, Bool.and_eq_true, decide_eq_true_eq] at h
    obtain ⟨hlater, hpairwise⟩ := @ih (last + gap) h.2
    unfold entriesFrom
    refine ⟨fun e he => ?_, List.pairwise_cons.mpr ⟨hlater, hpairwise⟩⟩
    rcases List.mem_cons.mp he with rfl | he
    · exact Nat.lt_add_of_pos_right h.1
    · have := hlater e he
      omega

theorem find?_entry {e : Entry} (he : e ∈ entries) : entries.find? (·.char == e.char) = some e := by
  have hok := decompositions_ok
  simp only [tableOk, Bool.and_eq_true] at hok
  have hincreasing : entries.Pairwise (·.char < ·.char) := (entriesFrom_increasing hok.1).2
  obtain ⟨front, back, hsplit⟩ := List.append_of_mem he
  rw [hsplit] at hincreasing ⊢
  have hbefore : ∀ d ∈ front, ¬ (d.char == e.char) = true := by
    intro d hd
    have := (List.pairwise_append.mp hincreasing).2.2 d hd e List.mem_cons_self
    simp only [beq_iff_eq]
    omega
  rw [List.find?_append, List.find?_eq_none.mpr hbefore]
  simp

theorem entry_ok {e : Entry} (he : e ∈ entries) : entryOk e = true := by
  have hok := decompositions_ok
  simp only [tableOk, Bool.and_eq_true, List.all_eq_true] at hok
  exact (hok.2 e he).1

theorem entry_range {e : Entry} (he : e ∈ entries) :
    0xC0 ≤ e.char ∧ e.char < 0x1100 ∨ 0x11C3 ≤ e.char ∧ e.char < 0xAC00 ∨ 0xDFFF < e.char ∧ e.char < 0x110000 := by
  have hok := entry_ok he
  simp only [entryOk, Bool.and_eq_true, Bool.or_eq_true, decide_eq_true_eq] at hok
  omega

theorem part_range {e : Entry} (he : e ∈ entries) {p : Nat} (hp : p ∈ e.parts) :
    0x2E < p ∧ p < 0xAC00 ∨ 0xDFFF < p ∧ p < 0x110000 := by
  have hok := entry_ok he
  simp only [entryOk, Bool.and_eq_true, List.all_eq_true] at hok
  simpa using hok.1.1.2 p hp

theorem not_syllable {n : Nat} (h : n < 0xAC00 ∨ 0xD7A3 < n) : isSyllable n = false := by
  simp only [isSyllable, Bool.and_eq_false_iff, decide_eq_false_iff_not]
  omega

theorem Within.mono {k l n : Nat} (h : Within k n) (hl : k ≤ l) : Within l n := by
  induction h generalizing l with
  | whole h => exact .whole h
  | @entry k e he _ ih =>
    obtain ⟨l, rfl⟩ := Nat.exists_eq_add_of_lt hl
    exact .entry he fun p hp => ih p hp (Nat.le_add_right k l)

theorem within_adopt {known k : Nat} (h : ∀ n, known.testBit n = true → Within k n) {n : Nat}
    (hn : (adopt entries known).testBit n = true) : Within (k + 1) n := by
  rw [adopt, Nat.testBit_or, Bool.or_eq_true, testBit_bits, decide_eq_true_eq, List.mem_map] at hn
  rcases hn with hn | ⟨e, he, rfl⟩
  · exact (h n hn).mono (Nat.le_succ k)
  · rw [List.mem_filter, List.all_eq_true] at he
    exact .entry he.1 fun p hp => h p (he.2 p hp)

theorem within_part {e : Entry} (he : e ∈ entries) {p : Nat} (hp : p ∈ e.parts) : Within 2 p := by
  have hok := decompositions_ok
  simp only [tableOk, Bool.and_eq_true, List.all_eq_true] at hok
  refine within_adopt (fun n => within_adopt fun n hn => ?_) ((hok.2 e he).2 p hp)
  rw [testBit_bits, decide_eq_true_eq, List.mem_filter, List.mem_flatMap] at hn
  obtain ⟨⟨d, hd, hnd⟩, hn⟩ := hn
  have hrange := part_range hd hnd
  refine .whole ⟨not_syllable (by omega), List.find?_eq_none.mpr fun e' he' heq => ?_⟩
  rw [testBit_bits, Bool.not_eq_true', decide_eq_false_iff_not] at hn
  exact hn (List.mem_map.mpr ⟨e', he', beq_iff_eq.mp heq⟩)

/-! ## Taking apart -/

theorem parts_whole {n : Nat} (h : Whole n) (k : Nat) : parts k n = [n] := by
  cases k with
  | zero => rfl
  | succ k =>
    unfold parts
    rw [if_neg (by simp [h.1]), h.2]

theorem parts_entry {e : Entry} (he : e ∈ entries) (k : Nat) : parts (k + 1) e.char = e.parts.flatMap (parts k) := by
  have hrange := entry_range he
  have hsyllable : isSyllable e.char = false := not_syllable (by omega)
  rw [parts, if_neg (by simp [hsyllable]), find?_entry he]

theorem parts_syllable {n : Nat} (h : isSyllable n = true) (k : Nat) : parts (k + 1) n = syllableParts n := by
  rw [parts, if_pos h]

theorem parts_within {k n : Nat} (h : Within k n) {r : Nat} (hr : k ≤ r) :
    parts r n = parts k n ∧ ∀ p ∈ parts k n, Whole p := by
  induction h generalizing r with
  | whole h =>
    rw [parts_whole h, parts_whole h]
    exact ⟨rfl, fun p hp => List.mem_singleton.mp hp ▸ h⟩
  | @entry k e he _ ih =>
    obtain ⟨r, rfl⟩ := Nat.exists_eq_add_of_lt hr
    rw [parts_entry he, parts_entry he]
    refine ⟨List.flatMap_congr fun p hp => (ih p hp (Nat.le_add_right k r)).1, fun q hq => ?_⟩
    obtain ⟨p, hp, hq⟩ := List.mem_flatMap.mp hq
    exact (ih p hp (Nat.le_refl k)).2 q hq

/-- The parts of a character in the table are those of the characters it comes apart into. -/
theorem parts_entry_full {e : Entry} (he : e ∈ entries) : parts 4 e.char = e.parts.flatMap (parts 4) := by
  rw [parts_entry he]
  refine List.flatMap_congr fun p hp => ?_
  have hp := within_part he hp
  rw [(parts_within hp (show 2 ≤ 3 by decide)).1, (parts_within hp (show 2 ≤ 4 by decide)).1]

/-- A Hangul letter that syllables are made of. -/
def Letter (n : Nat) : Prop := 0x1100 ≤ n ∧ n < 0x1113 ∨ 0x1161 ≤ n ∧ n < 0x1176 ∨ 0x11A7 < n ∧ n < 0x11C3

theorem Letter.whole {n : Nat} (h : Letter n) : Whole n := by
  unfold Letter at h
  refine ⟨not_syllable (by omega), List.find?_eq_none.mpr fun e he heq => ?_⟩
  have hrange := entry_range he
  have := beq_iff_eq.mp heq
  omega

theorem letter_syllableParts {n : Nat} (h : isSyllable n = true) : ∀ p ∈ syllableParts n, Letter p := by
  simp only [isSyllable, Bool.and_eq_true, decide_eq_true_eq] at h
  intro p hp
  unfold syllableParts at hp
  unfold Letter
  simp only at hp
  split at hp
  · simp only [List.mem_cons, List.not_mem_nil, or_false] at hp
    omega
  · simp only [List.cons_append, List.nil_append, List.mem_cons, List.not_mem_nil, or_false] at hp
    omega

/-- What a character comes apart into does not come apart. -/
theorem whole_parts (n : Nat) : ∀ p ∈ parts 4 n, Whole p := by
  by_cases hsyllable : isSyllable n = true
  · rw [parts_syllable hsyllable]
    intro p hp
    exact (letter_syllableParts hsyllable p hp).whole
  · cases hfind : entries.find? (·.char == n) with
    | none =>
      have hwhole : Whole n := ⟨by simpa using hsyllable, hfind⟩
      exact (parts_within (.whole hwhole) (Nat.le_refl 4)).2
    | some e =>
      have he := List.mem_of_find?_eq_some hfind
      have hchar : e.char = n := by simpa using List.find?_some hfind
      have hwithin : Within 3 n := hchar ▸ .entry he fun p => within_part he
      rw [(parts_within hwithin (by decide)).1]
      exact (parts_within hwithin (Nat.le_refl 3)).2

theorem flatMap_parts_whole {ns : List Nat} (h : ∀ n ∈ ns, Whole n) : ns.flatMap (parts 4) = ns := by
  have hself : ns.flatMap (parts 4) = ns.flatMap fun n => [n] := List.flatMap_congr fun n hn => parts_whole (h n hn) 4
  rw [hself]
  simp

/-! ## Composing two -/

theorem compose?_eq_some {a b c : Nat} (h : compose? a b = some c) :
    syllable? a b = some c ∨ ∃ e ∈ entries, e.char = c ∧ e.composes = true ∧ e.parts = [a, b] := by
  unfold compose? at h
  rw [Option.or_eq_some_iff] at h
  rcases h with h | ⟨-, h⟩
  · exact Or.inl h
  · obtain ⟨e, hfind, hchar⟩ := Option.map_eq_some_iff.mp h
    have he := List.find?_some hfind
    simp only [Bool.and_eq_true, beq_iff_eq] at he
    exact Or.inr ⟨e, List.mem_of_find?_eq_some hfind, hchar, he⟩

theorem syllable?_parts {a b c : Nat} (h : syllable? a b = some c) : parts 4 c = parts 4 a ++ [b] := by
  unfold syllable? at h
  split at h
  · rename_i hletters
    obtain rfl := Option.some.inj h
    have hc : isSyllable (0xAC00 + ((a - 0x1100) * 21 + (b - 0x1161)) * 28) = true := by
      simp only [isSyllable, Bool.and_eq_true, decide_eq_true_eq]
      omega
    rw [parts_syllable hc, parts_whole (Letter.whole (Or.inl ⟨hletters.1, hletters.2.1⟩)), syllableParts,
      if_pos (by omega)]
    simp only [List.cons_append, List.nil_append, List.cons.injEq, and_true]
    omega
  · split at h
    · rename_i hsyllable
      obtain rfl := Option.some.inj h
      obtain ⟨ha, hwhole, hlow, hhigh⟩ := hsyllable
      have hrange := ha
      simp only [isSyllable, Bool.and_eq_true, decide_eq_true_eq] at hrange
      have hc : isSyllable (a + (b - 0x11A7)) = true := by
        simp only [isSyllable, Bool.and_eq_true, decide_eq_true_eq]
        omega
      rw [parts_syllable hc, parts_syllable ha, syllableParts, syllableParts,
        if_neg (by omega), if_pos hwhole]
      simp only [List.cons_append, List.nil_append, List.cons.injEq, and_true]
      omega
    · cases h

/-- What was composed comes apart again. -/
theorem compose?_parts {a b c : Nat} (h : compose? a b = some c) (hb : Whole b) : parts 4 c = parts 4 a ++ [b] := by
  rcases compose?_eq_some h with h | ⟨e, he, rfl, -, hparts⟩
  · exact syllable?_parts h
  · rw [parts_entry_full he, hparts]
    simp [parts_whole hb]

/-! ## Canonical equivalence -/

/-- The characters of class 0 and those of class `k`. -/
def only (k : Nat) (ns : List Nat) : List Nat := ns.filter fun n => combiningClass n = 0 ∨ combiningClass n = k

/-- Marks of different classes may have changed places, nothing else. -/
def Same (a b : List Nat) : Prop := ∀ k, only k a = only k b

namespace Same

variable {a b c d : List Nat}

theorem refl (a : List Nat) : Same a a := fun _ => rfl

theorem symm (h : Same a b) : Same b a := fun k => (h k).symm

theorem trans (h : Same a b) (h' : Same b c) : Same a c := fun k => (h k).trans (h' k)

theorem append (h : Same a b) (h' : Same c d) : Same (a ++ c) (b ++ d) := by
  intro k
  have h := h k
  have h' := h' k
  unfold only at h h' ⊢
  rw [List.filter_append, List.filter_append, h, h']

end Same

/-- A mark may go in front of marks of other classes. -/
theorem same_swap {n : Nat} {marks : List Nat} (hn : combiningClass n ≠ 0)
    (hmarks : ∀ m ∈ marks, combiningClass m ≠ 0 ∧ combiningClass m ≠ combiningClass n) : Same (n :: marks) (marks ++ [n]) := by
  intro k
  unfold only
  by_cases hk : combiningClass n = k
  · have hnone : marks.filter (fun m => combiningClass m = 0 ∨ combiningClass m = k) = [] := by
      refine List.filter_eq_nil_iff.mpr fun m hm => ?_
      have := hmarks m hm
      simp only [decide_eq_true_eq]
      omega
    rw [List.filter_append, List.filter_cons, hnone]
    simp [hk]
  · rw [List.filter_append, List.filter_cons_of_neg (by simp [hn, hk]), List.filter_cons_of_neg (by simp [hn, hk])]
    simp

/-! ## Sorting marks -/

/-- No mark stands behind one of a higher class. -/
def Ordered : List Nat → Prop
  | [] => True
  | [_] => True
  | a :: b :: ns => (combiningClass b = 0 ∨ combiningClass a ≤ combiningClass b) ∧ Ordered (b :: ns)

theorem Ordered.tail {n : Nat} {ns : List Nat} (h : Ordered (n :: ns)) : Ordered ns := by
  cases ns with
  | nil => trivial
  | cons m ns => exact h.2

theorem Ordered.cons {n : Nat} {ns : List Nat} (h : Ordered ns)
    (hn : ∀ m ∈ ns.head?, combiningClass m = 0 ∨ combiningClass n ≤ combiningClass m) : Ordered (n :: ns) := by
  cases ns with
  | nil => trivial
  | cons m ns => exact ⟨hn m rfl, h⟩

/-- The first mark of a class is in front of the next full character only if no mark of a
    higher class is in front of it. -/
theorem Ordered.head_le {y x : Nat} {ns rest : List Nat} (h : Ordered (y :: ns)) (hx : combiningClass x ≠ 0)
    (hfirst : only (combiningClass x) ns = x :: rest) : combiningClass y ≤ combiningClass x := by
  induction ns generalizing y with
  | nil => cases hfirst
  | cons n ns ih =>
    unfold only at hfirst
    by_cases hn : combiningClass n = 0 ∨ combiningClass n = combiningClass x
    · rw [List.filter_cons_of_pos (by simpa using hn)] at hfirst
      cases hfirst
      rcases h.1 with h | h
      · exact absurd h hx
      · exact h
    · rw [List.filter_cons_of_neg (by simpa using hn)] at hfirst
      have hle := ih h.2 hfirst
      rcases h.1 with h | h
      · exact absurd (Or.inl h) hn
      · exact Nat.le_trans h hle

theorem only_cons_self (n : Nat) (ns : List Nat) : only (combiningClass n) (n :: ns) = n :: only (combiningClass n) ns :=
  List.filter_cons_of_pos (by simp)

theorem only_cons_starter {n : Nat} (h : combiningClass n = 0) (k : Nat) (ns : List Nat) : only k (n :: ns) = n :: only k ns :=
  List.filter_cons_of_pos (by simp [h])

theorem only_cons_other {n k : Nat} (h : combiningClass n ≠ 0) (hk : combiningClass n ≠ k) (ns : List Nat) :
    only k (n :: ns) = only k ns :=
  List.filter_cons_of_neg (by simp [h, hk])

/-- Two sorted texts that are the same begin with the same character. -/
theorem Ordered.head_eq {x y : Nat} {a b : List Nat} (ha : Ordered (x :: a)) (hb : Ordered (y :: b))
    (h : Same (x :: a) (y :: b)) : x = y := by
  have hx := h (combiningClass x)
  have hy := h (combiningClass y)
  rw [only_cons_self] at hx hy
  by_cases hx0 : combiningClass x = 0
  · rw [only_cons_starter hx0] at hy
    exact (List.cons.inj hy).1
  by_cases hy0 : combiningClass y = 0
  · rw [only_cons_starter hy0] at hx
    exact (List.cons.inj hx).1
  by_cases heq : combiningClass x = combiningClass y
  · rw [heq, only_cons_self] at hx
    exact (List.cons.inj hx).1
  · rw [only_cons_other hy0 (Ne.symm heq)] at hx
    rw [only_cons_other hx0 heq] at hy
    have hle := hb.head_le hx0 hx.symm
    have hge := ha.head_le hy0 hy
    omega

/-- There is one way to sort a text. -/
theorem Ordered.eq_of_same {a b : List Nat} (ha : Ordered a) (hb : Ordered b) (h : Same a b) : a = b := by
  induction a generalizing b with
  | nil =>
    cases b with
    | nil => rfl
    | cons y b =>
      have hy := h (combiningClass y)
      rw [only_cons_self] at hy
      cases hy
  | cons x a ih =>
    cases b with
    | nil =>
      have hx := h (combiningClass x)
      rw [only_cons_self] at hx
      cases hx
    | cons y b =>
      obtain rfl := ha.head_eq hb h
      rw [ih ha.tail hb.tail fun k => ?_]
      have hk := h k
      unfold only at hk ⊢
      rw [List.filter_cons, List.filter_cons] at hk
      split at hk
      · exact (List.cons.inj hk).2
      · exact hk

/-! ## The sort -/

theorem same_sorted {marks : List Nat} (h : ∀ m ∈ marks, combiningClass m ≠ 0) : Same (orderMarks.sorted marks) marks := by
  intro k
  have hsub : (only k marks).Sublist (orderMarks.sorted marks) := by
    refine List.sublist_mergeSort (by simp only [decide_eq_true_eq]; omega)
      (by simp only [Bool.or_eq_true, decide_eq_true_eq]; omega) ?_ List.filter_sublist
    refine List.pairwise_of_forall_mem_list fun a ha b hb => ?_
    have ha := List.mem_filter.mp ha
    have hb := List.mem_filter.mp hb
    have ha0 := h a ha.1
    have hb0 := h b hb.1
    simp only [decide_eq_true_eq] at ha hb ⊢
    omega
  have hsub := hsub.filter fun n => combiningClass n = 0 ∨ combiningClass n = k
  have hlength : (only k (orderMarks.sorted marks)).length = (only k marks).length :=
    ((List.mergeSort_perm marks _).filter _).length_eq
  unfold only at hsub hlength ⊢
  rw [List.filter_filter] at hsub
  simp only [Bool.and_self] at hsub
  exact (hsub.eq_of_length hlength.symm).symm

theorem orderMarks_mem {marks ns : List Nat} {n : Nat} : n ∈ orderMarks marks ns ↔ n ∈ marks ∨ n ∈ ns := by
  induction ns generalizing marks with
  | nil => simp [orderMarks, orderMarks.sorted]
  | cons m ns ih =>
    unfold orderMarks
    split
    · simp [orderMarks.sorted, ih]
    · rw [ih]
      simp [or_assoc]

theorem same_orderMarks {marks : List Nat} (h : ∀ m ∈ marks, combiningClass m ≠ 0) (ns : List Nat) :
    Same (orderMarks marks ns) (marks ++ ns) := by
  induction ns generalizing marks with
  | nil =>
    rw [List.append_nil]
    exact same_sorted h
  | cons n ns ih =>
    unfold orderMarks
    split
    · exact (same_sorted h).append ((Same.refl [n]).append (ih nofun))
    · rename_i hn
      have hmarks : ∀ m ∈ marks ++ [n], combiningClass m ≠ 0 := by
        intro m hm
        rcases List.mem_append.mp hm with hm | hm
        · exact h m hm
        · rwa [List.mem_singleton.mp hm]
      have hrest := ih hmarks
      rwa [List.append_assoc] at hrest

theorem ordered_append {marks ns : List Nat} (hmarks : marks.Pairwise fun a b => combiningClass a ≤ combiningClass b)
    (hns : Ordered ns) (hhead : ∀ n ∈ ns.head?, combiningClass n = 0) : Ordered (marks ++ ns) := by
  induction marks with
  | nil => exact hns
  | cons m marks ih =>
    rw [List.pairwise_cons] at hmarks
    refine (ih hmarks.2).cons fun k hk => ?_
    rw [List.head?_append] at hk
    cases marks with
    | nil => exact Or.inl (hhead k hk)
    | cons l marks =>
      cases hk
      exact Or.inr (hmarks.1 k List.mem_cons_self)

theorem ordered_orderMarks (marks ns : List Nat) : Ordered (orderMarks marks ns) := by
  have hsorted (marks : List Nat) :
      (orderMarks.sorted marks).Pairwise fun a b => combiningClass a ≤ combiningClass b := by
    have h := @List.pairwise_mergeSort _ (fun a b => decide (combiningClass a ≤ combiningClass b))
      (by simp only [decide_eq_true_eq]; omega) (by simp only [Bool.or_eq_true, decide_eq_true_eq]; omega) marks
    exact h.imp of_decide_eq_true
  induction ns generalizing marks with
  | nil =>
    have h := @ordered_append _ [] (hsorted marks) trivial nofun
    rwa [List.append_nil] at h
  | cons n ns ih =>
    unfold orderMarks
    split
    · rename_i hn
      refine ordered_append (hsorted marks) ?_ fun m hm => ?_
      · cases hrest : orderMarks [] ns with
        | nil => trivial
        | cons m rest =>
          refine Ordered.cons (hrest ▸ ih []) fun k hk => Or.inr ?_
          rw [hn]
          exact Nat.zero_le _
      · cases hm
        exact hn
    · exact ih _

/-! ## Composing -/

-- Otherwise opening `composeAfter` would compute the tables.
attribute [local irreducible] combiningClass compose?

theorem composeAfter_nil (starter last : Nat) (kept : List Nat) : composeAfter starter kept last [] = starter :: kept := rfl

theorem composeAfter_cons (starter last n : Nat) (kept ns : List Nat) :
    composeAfter starter kept last (n :: ns) =
      match (if (if combiningClass n = 0 then kept = [] else last < combiningClass n) then compose? starter n else none) with
      | some joined => composeAfter joined kept last ns
      | none =>
        if combiningClass n = 0 then starter :: kept ++ composeAfter n [] 0 ns
        else composeAfter starter (kept ++ [n]) (combiningClass n) ns := by
  rfl

/-- What can become of the next character: it is composed with the starter, which no mark
    that is kept may hinder; or it is the next starter; or it is kept. -/
theorem composeAfter_cases (starter last n : Nat) (kept ns : List Nat) :
    (∃ joined, compose? starter n = some joined ∧ (combiningClass n = 0 → kept = []) ∧
      (combiningClass n ≠ 0 → last < combiningClass n) ∧
      composeAfter starter kept last (n :: ns) = composeAfter joined kept last ns) ∨
    (combiningClass n = 0 ∧ composeAfter starter kept last (n :: ns) = starter :: kept ++ composeAfter n [] 0 ns) ∨
    (combiningClass n ≠ 0 ∧
      composeAfter starter kept last (n :: ns) = composeAfter starter (kept ++ [n]) (combiningClass n) ns) := by
  rw [composeAfter_cons]
  by_cases hn : combiningClass n = 0
  · simp only [if_pos hn]
    split
    · rename_i joined hjoined
      split at hjoined
      · rename_i hkept
        exact Or.inl ⟨joined, hjoined, fun _ => hkept, fun h => absurd hn h, rfl⟩
      · cases hjoined
    · exact Or.inr (Or.inl ⟨hn, rfl⟩)
  · simp only [if_neg hn]
    split
    · rename_i joined hjoined
      split at hjoined
      · rename_i hlast
        exact Or.inl ⟨joined, hjoined, fun h => absurd h hn, fun _ => hlast, rfl⟩
      · cases hjoined
    · exact Or.inr (Or.inr ⟨hn, rfl⟩)

/-- Marks that are kept behind a character: their classes go up to `last`. -/
structure Kept (last : Nat) (kept : List Nat) : Prop where
  none : kept = [] → last = 0
  whole : ∀ m ∈ kept, Whole m
  mark : ∀ m ∈ kept, combiningClass m ≠ 0
  upTo : ∀ m ∈ kept, combiningClass m ≤ last

theorem Kept.nil : Kept 0 [] := ⟨fun _ => rfl, nofun, nofun, nofun⟩

theorem Kept.parts {last : Nat} {kept : List Nat} (h : Kept last kept) : kept.flatMap (parts 4) = kept :=
  flatMap_parts_whole h.whole

theorem Kept.snoc {last n : Nat} {kept : List Nat} (h : Kept last kept) (hn : Whole n) (hmark : combiningClass n ≠ 0)
    (hlast : last ≤ combiningClass n) : Kept (combiningClass n) (kept ++ [n]) := by
  refine ⟨fun hnil => by simp at hnil, fun m hm => ?_, fun m hm => ?_, fun m hm => ?_⟩ <;>
    rcases List.mem_append.mp hm with hm | hm
  · exact h.whole m hm
  · exact List.mem_singleton.mp hm ▸ hn
  · exact h.mark m hm
  · exact List.mem_singleton.mp hm ▸ hmark
  · exact Nat.le_trans (h.upTo m hm) hlast
  · exact List.mem_singleton.mp hm ▸ Nat.le_refl _

/-- The composition of a sorted text comes apart into it. What is composed with `starter`
    goes past the marks that are kept, which are all of lower classes. -/
theorem same_composeAfter {starter last : Nat} {kept ns : List Nat} (hkept : Kept last kept) (hns : ∀ n ∈ ns, Whole n)
    (hordered : Ordered ns) (hhead : ∀ n ∈ ns.head?, combiningClass n = 0 ∨ last ≤ combiningClass n) :
    Same ((composeAfter starter kept last ns).flatMap (parts 4)) (parts 4 starter ++ kept ++ ns) := by
  induction ns generalizing starter last kept with
  | nil =>
    rw [composeAfter_nil, List.flatMap_cons, hkept.parts, List.append_nil (parts 4 starter ++ kept)]
    exact Same.refl _
  | cons n ns ih =>
    have hn : Whole n := hns n List.mem_cons_self
    have hrest : ∀ m ∈ ns, Whole m := fun m hm => hns m (List.mem_cons_of_mem n hm)
    have hfirst := hhead n rfl
    have hnext : ∀ m ∈ ns.head?, combiningClass m = 0 ∨ combiningClass n ≤ combiningClass m := by
      intro m hm
      cases ns with
      | nil => cases hm
      | cons l ns =>
        obtain rfl := Option.some.inj hm
        exact hordered.1
    rcases composeAfter_cases starter last n kept ns with ⟨joined, hjoined, hfull, hmark, heq⟩ | ⟨hfull, heq⟩ | ⟨hmark, heq⟩
    · -- `n` stands behind the marks that are kept, and comes apart in front of them.
      have hlater := @ih joined last kept hkept hrest hordered.tail fun m hm => by
        have := hnext m hm
        by_cases hn : combiningClass n = 0
        · rw [hkept.none (hfull hn)]
          exact Or.inr (Nat.zero_le _)
        · omega
      have hswap : Same (n :: kept) (kept ++ [n]) := by
        by_cases hn : combiningClass n = 0
        · rw [hfull hn]
          exact Same.refl _
        · refine same_swap hn fun m hm => ⟨hkept.mark m hm, ?_⟩
          have := hkept.upTo m hm
          have := hmark hn
          omega
      have htext := (Same.refl (parts 4 starter)).append (hswap.append (Same.refl ns))
      rw [heq]
      rw [compose?_parts hjoined hn, List.append_assoc (parts 4 starter)] at hlater
      refine hlater.trans ?_
      simpa using htext
    · have hlater := @ih n 0 [] .nil hrest hordered.tail fun m _ => Or.inr (Nat.zero_le _)
      rw [parts_whole hn, List.append_nil] at hlater
      rw [heq, List.cons_append, List.flatMap_cons, List.flatMap_append, hkept.parts, List.append_assoc (parts 4 starter)]
      exact (Same.refl _).append ((Same.refl _).append hlater)
    · have hlater := @ih starter _ _ (hkept.snoc hn hmark (by omega)) hrest hordered.tail hnext
      rw [heq]
      rwa [← List.append_assoc, List.append_assoc (parts 4 starter ++ kept)] at hlater

theorem same_composeAll {ns : List Nat} (hns : ∀ n ∈ ns, Whole n) (hordered : Ordered ns) :
    Same ((composeAll ns).flatMap (parts 4)) ns := by
  induction ns with
  | nil => exact Same.refl []
  | cons n ns ih =>
    have hn : Whole n := hns n List.mem_cons_self
    have hrest : ∀ m ∈ ns, Whole m := fun m hm => hns m (List.mem_cons_of_mem n hm)
    unfold composeAll
    split
    · have h := @same_composeAfter n 0 [] ns .nil hrest hordered.tail fun m _ => Or.inr (Nat.zero_le _)
      rw [parts_whole hn] at h
      exact h
    · rw [List.flatMap_cons, parts_whole hn]
      exact (Same.refl [n]).append (ih hrest hordered.tail)

/-! ## The normal form -/

/-- The normal form of code points. -/
def normal (ns : List Nat) : List Nat := composeAll (orderMarks [] (ns.flatMap (parts 4)))

theorem normal_normal (ns : List Nat) : normal (normal ns) = normal ns := by
  let sorted := orderMarks [] (ns.flatMap (parts 4))
  have hwhole : ∀ n ∈ sorted, Whole n := by
    intro n hn
    rcases orderMarks_mem.mp hn with hn | hn
    · cases hn
    · obtain ⟨m, -, hn⟩ := List.mem_flatMap.mp hn
      exact whole_parts m n hn
  have hordered : Ordered sorted := ordered_orderMarks _ _
  have hsame : Same (orderMarks [] ((composeAll sorted).flatMap (parts 4))) sorted :=
    (@same_orderMarks [] nofun _).trans (same_composeAll hwhole hordered)
  have hsorted := (ordered_orderMarks _ _).eq_of_same hordered hsame
  show composeAll (orderMarks [] ((composeAll sorted).flatMap (parts 4))) = composeAll sorted
  rw [hsorted]

/-! ## What the normal form is made of -/

theorem composeAfter_mem {p : Nat → Prop} (hcompose : ∀ a b c, compose? a b = some c → p a → p b → p c) {starter last : Nat}
    {kept ns : List Nat} (hstarter : p starter) (hkept : ∀ m ∈ kept, p m) (hns : ∀ n ∈ ns, p n) :
    ∀ m ∈ composeAfter starter kept last ns, p m := by
  induction ns generalizing starter last kept with
  | nil => exact List.forall_mem_cons.mpr ⟨hstarter, hkept⟩
  | cons n ns ih =>
    have hn : p n := hns n List.mem_cons_self
    have hrest : ∀ m ∈ ns, p m := fun m hm => hns m (List.mem_cons_of_mem n hm)
    rcases composeAfter_cases starter last n kept ns with ⟨joined, hjoined, -, -, heq⟩ | ⟨-, heq⟩ | ⟨-, heq⟩ <;> rw [heq]
    · exact ih (hcompose _ _ _ hjoined hstarter hn) hkept hrest
    · exact List.forall_mem_append.mpr ⟨List.forall_mem_cons.mpr ⟨hstarter, hkept⟩, ih hn nofun hrest⟩
    · refine ih hstarter ?_ hrest
      exact List.forall_mem_append.mpr ⟨hkept, List.forall_mem_singleton.mpr hn⟩

theorem composeAll_mem {p : Nat → Prop} (hcompose : ∀ a b c, compose? a b = some c → p a → p b → p c) {ns : List Nat}
    (hns : ∀ n ∈ ns, p n) : ∀ m ∈ composeAll ns, p m := by
  induction ns with
  | nil => exact hns
  | cons n ns ih =>
    have hn : p n := hns n List.mem_cons_self
    have hrest : ∀ m ∈ ns, p m := fun m hm => hns m (List.mem_cons_of_mem n hm)
    unfold composeAll
    split
    · exact composeAfter_mem hcompose hn nofun hrest
    · exact List.forall_mem_cons.mpr ⟨hn, ih hrest⟩

/-- A property that entries hand down to their parts, and that composing entries get from
    them, and that all Hangul characters have. -/
structure Hereditary (p : Nat → Prop) : Prop where
  parts : ∀ e ∈ entries, p e.char → ∀ n ∈ e.parts, p n
  composed : ∀ e ∈ entries, e.composes = true → (∀ n ∈ e.parts, p n) → p e.char
  letter : ∀ n, Letter n → p n
  syllable : ∀ n, isSyllable n = true → p n

namespace Hereditary

variable {p : Nat → Prop}

theorem mem_parts (h : Hereditary p) (k : Nat) {n : Nat} (hn : p n) : ∀ m ∈ Normal.parts k n, p m := by
  induction k generalizing n with
  | zero => exact List.forall_mem_singleton.mpr hn
  | succ k ih =>
    unfold Normal.parts
    split
    · rename_i hsyllable
      exact fun m hm => h.letter m (letter_syllableParts hsyllable m hm)
    · split
      · rename_i e hfind
        have hchar : e.char = n := by simpa using List.find?_some hfind
        intro m hm
        obtain ⟨q, hq, hm⟩ := List.mem_flatMap.mp hm
        exact ih (h.parts e (List.mem_of_find?_eq_some hfind) (hchar ▸ hn) q hq) m hm
      · exact List.forall_mem_singleton.mpr hn

theorem compose? (h : Hereditary p) {a b c : Nat} (hc : Normal.compose? a b = some c) (ha : p a) (hb : p b) : p c := by
  rcases compose?_eq_some hc with hc | ⟨e, he, rfl, hcomposes, hparts⟩
  · refine h.syllable c ?_
    unfold syllable? at hc
    simp only [isSyllable, Bool.and_eq_true, decide_eq_true_eq]
    split at hc
    · have := Option.some.inj hc
      omega
    · split at hc
      · rename_i hsyllable
        have := Option.some.inj hc
        simp only [isSyllable, Bool.and_eq_true, decide_eq_true_eq] at hsyllable
        omega
      · cases hc
  · refine h.composed e he hcomposes fun n hn => ?_
    rw [hparts] at hn
    simp only [List.mem_cons, List.not_mem_nil, or_false] at hn
    rcases hn with rfl | rfl
    · exact ha
    · exact hb

theorem normal (h : Hereditary p) {ns : List Nat} (hns : ∀ n ∈ ns, p n) : ∀ m ∈ normal ns, p m := by
  refine composeAll_mem (fun a b c => h.compose?) fun m hm => ?_
  rcases orderMarks_mem.mp hm with hm | hm
  · cases hm
  · obtain ⟨n, hn, hm⟩ := List.mem_flatMap.mp hm
    exact h.mem_parts 4 (hns n hn) m hm

end Hereditary

theorem hereditary_valid : Hereditary Nat.isValidChar := by
  refine ⟨fun e he _ n hn => ?_, fun e he _ _ => ?_, fun n hn => ?_, fun n hn => ?_⟩
  · have := part_range he hn
    unfold Nat.isValidChar
    omega
  · have := entry_range he
    unfold Nat.isValidChar
    omega
  · unfold Letter at hn
    exact Or.inl (by omega)
  · simp only [isSyllable, Bool.and_eq_true, decide_eq_true_eq] at hn
    exact Or.inl (by omega)

/-- No full stop comes from other characters. -/
theorem hereditary_not_dot : Hereditary (· ≠ 0x2E) := by
  refine ⟨fun e he _ n hn => ?_, fun e he _ _ => ?_, fun n hn => ?_, fun n hn => ?_⟩
  · have := part_range he hn
    omega
  · have := entry_range he
    omega
  · unfold Letter at hn
    omega
  · simp only [isSyllable, Bool.and_eq_true, decide_eq_true_eq] at hn
    omega

/-! ## Characters that take no part -/

/-- A character of Latin 1's first part, or an ideograph. -/
def Inert (n : Nat) : Prop := n < 0xC0 ∨ 0x4E00 ≤ n ∧ n < 0xA000

instance (n : Nat) : Decidable (Inert n) := inferInstanceAs (Decidable (_ ∨ _))

theorem combiningClasses_ok : [(0, 0xC0), (0x4E00, 0xA000)].all (fun (low, high) =>
    combiningClasses.covers low high fun label => number36 (label.drop 1) == 0) = true := by
  have h : ∃ lines texts, combiningClasses = Labels.ofLines lines ∧ Labels.Spelt lines texts ∧
      [(0, 0xC0), (0x4E00, 0xA000)].all (fun (low, high) =>
        (Labels.ofTexts texts).covers low high fun label => number36 (label.drop 1) == 0) = true :=
    ⟨_, _, rfl, by repeat constructor, by decide +kernel⟩
  obtain ⟨lines, texts, hlines, hspelt, hok⟩ := h
  rw [hlines, hspelt.ofLines]
  exact hok

theorem combiningClass_inert {n : Nat} (h : Inert n) : combiningClass n = 0 := by
  have hcovered {low high : Nat} (hrange : (low, high) ∈ [(0, 0xC0), (0x4E00, 0xA000)]) (hlow : low ≤ n) (hhigh : n < high) :
      combiningClass n = 0 := by
    obtain ⟨label, i, hfind, hlabel⟩ := Labels.find?_of_covers (List.all_eq_true.mp combiningClasses_ok _ hrange) hlow hhigh
    unfold combiningClass
    rw [hfind]
    exact beq_iff_eq.mp hlabel
  rcases h with h | h
  · exact hcovered (by simp) (Nat.zero_le n) h
  · exact hcovered (by simp) h.1 h.2

theorem whole_inert {n : Nat} (h : Inert n) : Whole n := by
  have hsyllable : n < 0xAC00 := by
    unfold Inert at h
    omega
  refine ⟨not_syllable (Or.inl hsyllable), List.find?_eq_none.mpr fun e he heq => ?_⟩
  have hok := entry_ok he
  simp only [entryOk, isIdeograph, beq_iff_eq.mp heq, Bool.and_eq_true, Bool.or_eq_true, decide_eq_true_eq, Bool.not_eq_true',
    Bool.and_eq_false_iff, decide_eq_false_iff_not] at hok
  unfold Inert at h
  omega

/-- Nothing is composed with one of them behind it. -/
theorem compose?_inert (a : Nat) {b : Nat} (hb : Inert b) : compose? a b = none := by
  cases hc : compose? a b with
  | none => rfl
  | some c =>
    unfold Inert at hb
    rcases compose?_eq_some hc with hc | ⟨e, he, -, -, hparts⟩
    · unfold syllable? at hc
      rw [if_neg (by omega), if_neg (by omega)] at hc
      cases hc
    · have hok := entry_ok he
      simp only [entryOk, isIdeograph, hparts, Bool.and_eq_true, List.drop_succ_cons, List.drop_zero, List.all_cons,
        decide_eq_true_eq, Bool.not_eq_true', Bool.and_eq_false_iff, decide_eq_false_iff_not] at hok
      omega

/-- Nothing is composed with a full stop in front of it. -/
theorem compose?_dot (b : Nat) : compose? 0x2E b = none := by
  cases hc : compose? 0x2E b with
  | none => rfl
  | some c =>
    rcases compose?_eq_some hc with hc | ⟨e, he, -, -, hparts⟩
    · unfold syllable? at hc
      rw [if_neg (by omega), if_neg (by simp [isSyllable])] at hc
      cases hc
    · have := part_range he (hparts ▸ List.mem_cons_self)
      omega

theorem orderMarks_full {n : Nat} (hn : combiningClass n = 0) (marks ns : List Nat) :
    orderMarks marks (n :: ns) = orderMarks.sorted marks ++ n :: orderMarks [] ns := by
  rw [orderMarks, if_pos hn]

theorem orderMarks_mark {n : Nat} (hn : combiningClass n ≠ 0) (marks ns : List Nat) :
    orderMarks marks (n :: ns) = orderMarks (marks ++ [n]) ns := by
  rw [orderMarks, if_neg hn]

theorem orderMarks_nil : orderMarks [] [] = [] := List.mergeSort_nil

theorem composeAll_full {n : Nat} (hn : combiningClass n = 0) (ns : List Nat) : composeAll (n :: ns) = composeAfter n [] 0 ns := by
  rw [composeAll, if_pos hn]

theorem composeAll_mark {n : Nat} (hn : combiningClass n ≠ 0) (ns : List Nat) : composeAll (n :: ns) = n :: composeAll ns := by
  rw [composeAll, if_neg hn]

theorem orderMarks_append_full {n : Nat} (hn : combiningClass n = 0) (marks a b : List Nat) :
    orderMarks marks (a ++ n :: b) = orderMarks marks a ++ n :: orderMarks [] b := by
  induction a generalizing marks with
  | nil =>
    rw [List.nil_append, orderMarks_full hn]
    rfl
  | cons m a ih =>
    rw [List.cons_append]
    by_cases hm : combiningClass m = 0
    · rw [orderMarks_full hm, orderMarks_full hm, ih, List.append_assoc, List.cons_append]
    · rw [orderMarks_mark hm, orderMarks_mark hm, ih]

/-- A character behind which nothing is composed leaves the rest to itself. -/
theorem composeAfter_alone {starter : Nat} (hstarter : ∀ n, compose? starter n = none) (last : Nat) (kept ns : List Nat) :
    composeAfter starter kept last ns = starter :: kept ++ composeAll ns := by
  induction ns generalizing last kept with
  | nil => rw [composeAfter_nil, composeAll, List.append_nil]
  | cons n ns ih =>
    rcases composeAfter_cases starter last n kept ns with ⟨joined, hjoined, -, -, -⟩ | ⟨hn, heq⟩ | ⟨hn, heq⟩
    · rw [hstarter] at hjoined
      cases hjoined
    · rw [heq, composeAll_full hn]
    · rw [heq, ih, composeAll_mark hn]
      simp

theorem composeAfter_append_dot (starter last : Nat) (kept a b : List Nat) :
    composeAfter starter kept last (a ++ 0x2E :: b) = composeAfter starter kept last a ++ 0x2E :: composeAll b := by
  have hdot : combiningClass 0x2E = 0 := combiningClass_inert (by decide)
  induction a generalizing starter last kept with
  | nil =>
    rw [List.nil_append]
    rcases composeAfter_cases starter last 0x2E kept b with ⟨joined, hjoined, -, -, -⟩ | ⟨-, heq⟩ | ⟨hn, -⟩
    · rw [compose?_inert starter (by decide)] at hjoined
      cases hjoined
    · rw [heq, composeAfter_alone compose?_dot, composeAfter_nil]
      rfl
    · exact absurd hdot hn
  | cons n a ih =>
    rw [List.cons_append, composeAfter_cons, composeAfter_cons]
    split
    · exact ih _ _ _
    · split
      · rw [ih, List.append_assoc]
      · exact ih _ _ _

theorem composeAll_append_dot (a b : List Nat) : composeAll (a ++ 0x2E :: b) = composeAll a ++ 0x2E :: composeAll b := by
  have hdot : combiningClass 0x2E = 0 := combiningClass_inert (by decide)
  induction a with
  | nil =>
    rw [List.nil_append, composeAll_full hdot, composeAfter_alone compose?_dot]
    rfl
  | cons n a ih =>
    rw [List.cons_append]
    by_cases hn : combiningClass n = 0
    · rw [composeAll_full hn, composeAll_full hn, composeAfter_append_dot]
    · rw [composeAll_mark hn, composeAll_mark hn, ih, List.cons_append]

/-- The pieces between full stops have normal forms of their own. -/
theorem normal_append_dot (a b : List Nat) : normal (a ++ 0x2E :: b) = normal a ++ 0x2E :: normal b := by
  have hdot : parts 4 0x2E = [0x2E] := parts_whole (whole_inert (by decide)) 4
  unfold normal
  rw [List.flatMap_append, List.flatMap_cons, hdot, List.singleton_append,
    orderMarks_append_full (combiningClass_inert (by decide)), composeAll_append_dot]

theorem normal_inert {ns : List Nat} (h : ∀ n ∈ ns, Inert n) : normal ns = ns := by
  have horder {ns : List Nat} (h : ∀ n ∈ ns, Inert n) : orderMarks [] ns = ns := by
    induction ns with
    | nil => exact orderMarks_nil
    | cons n ns ih =>
      rw [orderMarks_full (combiningClass_inert (h n List.mem_cons_self)), ih fun m hm => h m (List.mem_cons_of_mem n hm)]
      exact congrArg (· ++ n :: ns) orderMarks_nil
  have hafter {n : Nat} {ns : List Nat} (h : ∀ n ∈ ns, Inert n) : composeAfter n [] 0 ns = n :: ns := by
    induction ns generalizing n with
    | nil => rfl
    | cons m ns ih =>
      have hm := h m List.mem_cons_self
      rcases composeAfter_cases n 0 m [] ns with ⟨joined, hjoined, -, -, -⟩ | ⟨-, heq⟩ | ⟨hmark, -⟩
      · rw [compose?_inert n hm] at hjoined
        cases hjoined
      · rw [heq, ih fun k hk => h k (List.mem_cons_of_mem m hk)]
        rfl
      · exact absurd (combiningClass_inert hm) hmark
  unfold normal
  rw [flatMap_parts_whole fun n hn => whole_inert (h n hn), horder h]
  cases ns with
  | nil => rfl
  | cons n ns =>
    rw [composeAll_full (combiningClass_inert (h n List.mem_cons_self)), hafter fun m hm => h m (List.mem_cons_of_mem n hm)]

/-! ## Texts -/

theorem toNat_toChar {n : Nat} (h : n.isValidChar) : (toChar n).toNat = n := by
  unfold toChar Char.ofNat
  rw [dif_pos h]
  rfl

theorem map_toChar_toNat (s : List Char) : (s.map Char.toNat).map toChar = s := by
  simp [toChar, Function.comp_def]

theorem nfc_eq (s : List Char) : nfc s = (normal (s.map Char.toNat)).map toChar := by
  unfold nfc
  split
  · rename_i hsmall
    rw [normal_inert, map_toChar_toNat]
    intro n hn
    obtain ⟨c, hc, rfl⟩ := List.mem_map.mp hn
    exact Or.inl (of_decide_eq_true (List.all_eq_true.mp hsmall c hc))
  · unfold normal
    rw [List.flatMap_map]

theorem nfc_inert {s : List Char} (h : ∀ c ∈ s, Inert c.toNat) : nfc s = s := by
  rw [nfc_eq, normal_inert, map_toChar_toNat]
  intro n hn
  obtain ⟨c, hc, rfl⟩ := List.mem_map.mp hn
  exact h c hc

/-- What holds of the code points of a text holds of those of its normal form, if it goes
    down to parts and up to what they compose. -/
theorem mem_nfc {p : Nat → Prop} (h : Hereditary p) {s : List Char} (hs : ∀ c ∈ s, p c.toNat) : ∀ c ∈ nfc s, p c.toNat := by
  have hcodes {q : Nat → Prop} (hq : Hereditary q) (hs : ∀ c ∈ s, q c.toNat) : ∀ n ∈ normal (s.map Char.toNat), q n := by
    refine hq.normal fun n hn => ?_
    obtain ⟨c, hc, rfl⟩ := List.mem_map.mp hn
    exact hs c hc
  intro c hc
  rw [nfc_eq] at hc
  obtain ⟨n, hn, rfl⟩ := List.mem_map.mp hc
  rw [toNat_toChar (hcodes hereditary_valid (fun c _ => c.valid) n hn)]
  exact hcodes h hs n hn

theorem map_toNat_nfc (s : List Char) : (nfc s).map Char.toNat = normal (s.map Char.toNat) := by
  have hvalid : ∀ n ∈ normal (s.map Char.toNat), n.isValidChar := by
    refine hereditary_valid.normal fun n hn => ?_
    obtain ⟨c, -, rfl⟩ := List.mem_map.mp hn
    exact c.valid
  rw [nfc_eq, List.map_map]
  refine (List.map_congr_left fun n hn => ?_).trans (List.map_id _)
  exact toNat_toChar (hvalid n hn)

/-- A normal form is its own normal form. -/
theorem nfc_nfc (s : List Char) : nfc (nfc s) = nfc s := by
  rw [nfc_eq (nfc s), map_toNat_nfc, normal_normal, ← nfc_eq]

/-- The pieces between full stops have normal forms of their own. -/
theorem nfc_append_dot (a b : List Char) : nfc (a ++ '.' :: b) = nfc a ++ '.' :: nfc b := by
  have hdot : (a ++ '.' :: b).map Char.toNat = a.map Char.toNat ++ 0x2E :: b.map Char.toNat := by
    rw [List.map_append, List.map_cons]
    rfl
  rw [nfc_eq, hdot, normal_append_dot, List.map_append, List.map_cons, ← nfc_eq, ← nfc_eq]
  rfl

theorem dot_not_mem_nfc {s : List Char} (h : '.' ∉ s) : '.' ∉ nfc s := by
  intro hmem
  refine mem_nfc hereditary_not_dot (fun c hc heq => h ?_) '.' hmem rfl
  have : c = '.' := Char.toNat_inj.mp heq
  exact this ▸ hc

end NumberRegistry.Text.Normal
