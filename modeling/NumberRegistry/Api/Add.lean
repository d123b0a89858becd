/-
  NumberRegistry.Api.Add — adding a number with nothing in between.
-/
import NumberRegistry.Api.Error
import NumberRegistry.Store.Basic

namespace NumberRegistry.Api

/-- Stores a number and reads back all numbers in ascending order. A read that fails
    leaves the number stored. -/
def storeAndList {σ ι : Type} [NumberStore σ ι] (value : Int32) (s : σ) :
    Except Error (List Int32) × σ :=
  match NumberStore.insert s value with
  | (.error cause, s) => (.error (.insert cause), s)
  | (.ok _, s) =>
    match NumberStore.listSorted s with
    | (.error cause, s) => (.error (.list cause), s)
    | (.ok records, s) => (.ok (records.map (·.value)), s)

/-- The insert fails, or the read after it, or both succeed. -/
theorem storeAndList_cases {σ ι : Type} [NumberStore σ ι] (s : σ) (value : Int32) :
    let inserted := NumberStore.insert s value
    let listed := NumberStore.listSorted inserted.2
    (∃ cause, inserted.1 = .error cause ∧ storeAndList value s = (.error (.insert cause), inserted.2)) ∨
    (∃ record cause, inserted.1 = .ok record ∧ listed.1 = .error cause ∧
      storeAndList value s = (.error (.list cause), listed.2)) ∨
    (∃ record records, inserted.1 = .ok record ∧ listed.1 = .ok records ∧
      storeAndList value s = (.ok (records.map (·.value)), listed.2)) := by
  intro inserted listed
  unfold storeAndList
  split
  · rename_i cause s₁ hi
    exact Or.inl ⟨cause, by simp [inserted, hi], by simp [inserted, hi]⟩
  · rename_i record s₁ hi
    have hs : inserted.2 = s₁ := by simp [inserted, hi]
    refine Or.inr ?_
    split
    · rename_i cause s₂ hl
      exact Or.inl ⟨record, cause, by simp [inserted, hi], by simp [listed, hs, hl], by simp [listed, hs, hl]⟩
    · rename_i records s₂ hl
      exact Or.inr ⟨record, records, by simp [inserted, hi], by simp [listed, hs, hl], by simp [listed, hs, hl]⟩

theorem storeAndList_failed {σ ι : Type} [NumberStore σ ι] {s : σ} {value : Int32} {cause : Store.Error}
    (hi : (NumberStore.insert s value).1 = .error cause) :
    storeAndList value s = (.error (.insert cause), (NumberStore.insert s value).2) := by
  obtain ⟨_, h, hdone⟩ | ⟨_, _, h, -⟩ | ⟨_, _, h, -⟩ := storeAndList_cases s value
  · rw [hi] at h; cases h; exact hdone
  · rw [hi] at h; cases h
  · rw [hi] at h; cases h

/-- After the insert the read decides. -/
theorem storeAndList_listed {σ ι : Type} [NumberStore σ ι] {s : σ} {value : Int32} {record : Store.Record ι}
    (hi : (NumberStore.insert s value).1 = .ok record) :
    let listed := NumberStore.listSorted (NumberStore.insert s value).2
    storeAndList value s = ((listed.1.map (·.map (·.value))).mapError Error.list, listed.2) := by
  intro listed
  obtain ⟨_, h, -⟩ | ⟨_, _, -, hl, h⟩ | ⟨_, _, -, hl, h⟩ := storeAndList_cases s value
  · rw [hi] at h; cases h
  · simp only [h, listed, hl]; rfl
  · simp only [h, listed, hl]; rfl

theorem storeAndList_ok {σ ι : Type} [NumberStore σ ι] {s : σ} {value : Int32} {record : Store.Record ι}
    {records : List (Store.Record ι)} (hi : (NumberStore.insert s value).1 = .ok record)
    (hl : (NumberStore.listSorted (NumberStore.insert s value).2).1 = .ok records) :
    storeAndList value s =
      (.ok (records.map (·.value)), (NumberStore.listSorted (NumberStore.insert s value).2).2) := by
  rw [storeAndList_listed hi, hl]
  rfl

end NumberRegistry.Api
