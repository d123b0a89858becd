/-
  NumberRegistry.Proofs.Store.Sorting — the order in which records are read.

  Records are sorted by number, and those of one number stay in the order they had. That
  settles where each stands: there is one list like that (`Reads.unique`), and sorting
  gives it (`reads_mergeSort`).
-/
import NumberRegistry.Store.Basic

namespace NumberRegistry.Store

variable {ι : Type}

theorem Record.le_trans (a b c : Record ι) (hab : Record.le a b = true) (hbc : Record.le b c = true) :
    Record.le a c = true := by
  simp only [Record.le, decide_eq_true_eq] at *
  exact Int32.le_trans hab hbc

theorem Record.le_total (a b : Record ι) : (Record.le a b || Record.le b a) = true := by
  simp only [Record.le, Bool.or_eq_true, decide_eq_true_eq]
  exact Int32.le_total _ _

/-- All records that are stored, in ascending order of their numbers, those of one number
    in the order in which they are stored. -/
structure Reads (stored read : List (Record ι)) : Prop where
  sorted : read.Pairwise (·.value ≤ ·.value)
  all : read.Perm stored
  ties : ∀ value, read.filter (·.value = value) = stored.filter (·.value = value)

theorem reads_mergeSort (stored : List (Record ι)) : Reads stored (stored.mergeSort Record.le) := by
  have hperm : (stored.mergeSort Record.le).Perm stored := List.mergeSort_perm _ _
  refine ⟨?_, hperm, fun value => ?_⟩
  · exact (List.pairwise_mergeSort Record.le_trans Record.le_total stored).imp
      fun h => by simpa [Record.le] using h
  -- records of one number are in order as they stand, so sorting keeps them as a sublist
  have hsame : (stored.filter (·.value = value)).Pairwise fun a b => Record.le a b = true := by
    refine List.pairwise_of_forall_mem_list fun a ha b hb => ?_
    have ha := (List.mem_filter.mp ha).2
    have hb := (List.mem_filter.mp hb).2
    simp only [decide_eq_true_eq] at ha hb
    simp [Record.le, ha, hb]
  have hsub := List.sublist_mergeSort Record.le_trans Record.le_total hsame List.filter_sublist
  have hfilter := hsub.filter (·.value = value)
  rw [List.filter_filter] at hfilter
  simp only [Bool.and_self] at hfilter
  exact (hfilter.eq_of_length (hperm.filter _).length_eq.symm).symm

theorem head_le {a b : Record ι} {s : List (Record ι)} (hb : (b :: s).Pairwise (·.value ≤ ·.value))
    (hm : a ∈ b :: s) : b.value ≤ a.value := by
  rcases List.mem_cons.mp hm with rfl | hm
  · exact Int32.le_refl _
  · exact (List.pairwise_cons.mp hb).1 a hm

/-- Two lists in ascending order that show the same records of each number are the same. -/
theorem eq_of_sorted_of_ties : ∀ {a b : List (Record ι)}, a.Pairwise (·.value ≤ ·.value) →
    b.Pairwise (·.value ≤ ·.value) →
    (∀ value, a.filter (·.value = value) = b.filter (·.value = value)) → a = b := by
  intro a
  induction a with
  | nil =>
    intro b _ _ h
    cases b with
    | nil => rfl
    | cons y s => have := h y.value; simp at this
  | cons x r ih =>
    intro b ha hb h
    cases b with
    | nil => have := h x.value; simp at this
    | cons y s =>
      have hx : x ∈ y :: s := (List.mem_filter.mp (by rw [← h x.value]; simp)).1
      have hy : y ∈ x :: r := (List.mem_filter.mp (by rw [h y.value]; simp)).1
      have hv : x.value = y.value := Int32.le_antisymm (head_le ha hy) (head_le hb hx)
      have hfirst := h x.value
      simp only [List.filter_cons, hv, decide_true, if_true, List.cons.injEq] at hfirst
      obtain ⟨rfl, -⟩ := hfirst
      refine congrArg (x :: ·) (ih (List.pairwise_cons.mp ha).2 (List.pairwise_cons.mp hb).2 fun value => ?_)
      have := h value
      simp only [List.filter_cons] at this
      split at this
      · exact (List.cons.inj this).2
      · exact this

theorem Reads.unique {stored read other : List (Record ι)} (h : Reads stored read) (ho : Reads stored other) :
    other = read :=
  eq_of_sorted_of_ties ho.sorted h.sorted fun value => (ho.ties value).trans (h.ties value).symm

end NumberRegistry.Store
