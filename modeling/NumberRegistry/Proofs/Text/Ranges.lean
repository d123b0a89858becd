/-
  NumberRegistry.Proofs.Text.Ranges — tables that are written out, checked as a whole.

  A table is evaluated from the characters of its lines (`Spelt`, `check_ofLines`): so a
  property of all its entries is one closed computation. Sets of code points are numbers
  there, a bit for each code point (`ones`, `bits`), and a run is named with the code
  point it begins at (`spans`), which is how it is found again (`exists_span`,
  `Span.find?`).
-/
import NumberRegistry.Text.Ranges

namespace NumberRegistry.Text

/-! ## Sets of code points -/

/-- `length` code points from `start` on. -/
def ones (start length : Nat) : Nat := ((1 <<< length) - 1) <<< start

def bits (ns : List Nat) : Nat := ns.foldl (fun set n => set ||| 1 <<< n) 0

theorem testBit_one_shiftLeft {n k : Nat} : (1 <<< n).testBit k = decide (n = k) := by
  rw [Nat.one_shiftLeft, Nat.testBit_two_pow]

theorem testBit_ones {start length k : Nat} : (ones start length).testBit k = decide (start ≤ k ∧ k < start + length) := by
  rw [ones, Nat.testBit_shiftLeft, Nat.one_shiftLeft, Nat.testBit_two_pow_sub_one, ← Bool.decide_and, decide_eq_decide]
  omega

theorem testBit_foldl_or (ns : List Nat) (set k : Nat) :
    (ns.foldl (fun set n => set ||| 1 <<< n) set).testBit k = (set.testBit k || decide (k ∈ ns)) := by
  induction ns generalizing set with
  | nil => simp
  | cons n ns ih =>
    rw [List.foldl_cons, ih, Nat.testBit_or, testBit_one_shiftLeft, Bool.or_assoc, ← Bool.decide_or]
    congr 2
    rw [List.mem_cons, @eq_comm _ n k]

theorem testBit_bits {ns : List Nat} {k : Nat} : (bits ns).testBit k = decide (k ∈ ns) := by
  rw [bits, testBit_foldl_or, Nat.zero_testBit, Bool.false_or]

theorem testBit_of_subset {set sub k : Nat} (h : set &&& sub = sub) (hk : sub.testBit k = true) : set.testBit k = true := by
  rw [← h, Nat.testBit_and, Bool.and_eq_true] at hk
  exact hk.1

/-! ## Runs -/

/-- A run of a table and the code point it begins at. -/
structure Span where
  start : Nat
  length : Nat
  label : List Char

namespace Labels

def spans : (start : Nat) → Labels → List Span
  | _, [] => []
  | start, (run, label) :: runs => ⟨start, run, label⟩ :: spans (start + run) runs

theorem exists_span {r : Labels} {n i : Nat} {label : List Char} (start : Nat) (h : r.find? n = some (label, i)) :
    ∃ s ∈ r.spans start, s.label = label ∧ s.start + i = start + n ∧ i < s.length := by
  induction r generalizing start n with
  | nil => cases h
  | cons run runs ih =>
    obtain ⟨run, name⟩ := run
    unfold find? at h
    split at h
    · rename_i hlt
      cases h
      exact ⟨⟨start, run, label⟩, List.mem_cons_self, rfl, rfl, hlt⟩
    · obtain ⟨s, hs, hlabel, hstart, hlength⟩ := ih (start + run) h
      exact ⟨s, List.mem_cons_of_mem _ hs, hlabel, by omega, hlength⟩

theorem find?_span {r : Labels} {start : Nat} {s : Span} (h : s ∈ r.spans start) {i : Nat} (hi : i < s.length) :
    start ≤ s.start ∧ r.find? (s.start - start + i) = some (s.label, i) := by
  induction r generalizing start with
  | nil => cases h
  | cons run runs ih =>
    obtain ⟨run, name⟩ := run
    unfold find?
    rcases List.mem_cons.mp h with rfl | h
    · refine ⟨Nat.le_refl _, ?_⟩
      rw [Nat.sub_self, Nat.zero_add, if_pos hi]
    · obtain ⟨hle, hfind⟩ := ih h
      refine ⟨by omega, ?_⟩
      rw [if_neg (by omega), show s.start - start + i - run = s.start - (start + run) + i by omega, hfind]

/-- One run holds the code points from `low` up to `high`, and its label is as asked for. -/
def covers (r : Labels) (low high : Nat) (p : List Char → Bool) : Bool :=
  (r.spans 0).any fun s => s.start ≤ low && high ≤ s.start + s.length && p s.label

theorem find?_of_covers {r : Labels} {low high : Nat} {p : List Char → Bool} (h : r.covers low high p = true) {n : Nat}
    (hlow : low ≤ n) (hhigh : n < high) : ∃ label i, r.find? n = some (label, i) ∧ p label = true := by
  obtain ⟨s, hs, hrange⟩ := List.any_eq_true.mp h
  simp only [Bool.and_eq_true, decide_eq_true_eq] at hrange
  obtain ⟨-, hfind⟩ := @find?_span r 0 s hs (n - s.start) (by omega)
  rw [show s.start - 0 + (n - s.start) = n by omega] at hfind
  exact ⟨s.label, n - s.start, hfind, hrange.2⟩

/-! ## Tables written out -/

/-- The lines of a table and their characters. -/
inductive Spelt : List String → List (List Char) → Prop
  | nil : Spelt [] []
  | cons {lines : List String} {texts : List (List Char)} (text : List Char) (rest : Spelt lines texts) :
      Spelt (String.ofList text :: lines) (text :: texts)

def ofTexts (texts : List (List Char)) : Labels := texts.flatMap fun text => (words text).map ofWord

theorem Spelt.ofLines {lines : List String} {texts : List (List Char)} (h : Spelt lines texts) :
    Labels.ofLines lines = ofTexts texts := by
  induction h with
  | nil => rfl
  | cons text rest ih =>
    unfold Labels.ofLines ofTexts at ih ⊢
    rw [List.flatMap_cons, List.flatMap_cons, String.toList_ofList, ih]

end Labels

namespace Ranges

def ofTexts (texts : List (List Char)) : Ranges := texts.flatMap fun text => (words text).map number36

theorem ofLines_spelt {lines : List String} {texts : List (List Char)} (h : Labels.Spelt lines texts) :
    ofLines lines = ofTexts texts := by
  induction h with
  | nil => rfl
  | cons text rest ih =>
    unfold ofLines ofTexts at ih ⊢
    rw [List.flatMap_cons, List.flatMap_cons, String.toList_ofList, ih]

/-- One run outside of the set holds the code points from `low` up to `high`. -/
def avoids (inside : Bool) : Ranges → Nat → Nat → Bool
  | [], _, _ => true
  | run :: runs, low, high =>
    if high ≤ run then !inside else run ≤ low && avoids (!inside) runs (low - run) (high - run)

theorem memFrom_of_avoids {inside : Bool} {r : Ranges} {low high : Nat} (h : avoids inside r low high = true) {n : Nat}
    (hlow : low ≤ n) (hhigh : n < high) : memFrom inside r n = false := by
  induction r generalizing inside low high n with
  | nil => rfl
  | cons run runs ih =>
    unfold avoids at h
    unfold memFrom
    split at h
    · rw [if_pos (by omega)]
      simpa using h
    · rw [Bool.and_eq_true, decide_eq_true_eq] at h
      rw [if_neg (by omega)]
      exact ih h.2 (by omega) (by omega)

end Ranges

end NumberRegistry.Text
