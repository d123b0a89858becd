/-
  NumberRegistry.Proofs.EnvFile.Value — what an entry is, and what its variables are.

  Whether an entry can be read, and which name it sets, does not depend on what the
  variables in its value stand for: a reader goes through the same modes whatever is
  looked up, and what is looked up only goes into its output (`Entry.kind_parse`). An entry
  without a dollar sign looks nothing up (`Entry.parse_plain`).
-/
import Mathlib.Tactic.SplitIfs
import NumberRegistry.EnvFile.Value

namespace NumberRegistry.EnvFile

open Text

/-- Two readings that stand at the same place of a value, whatever they have read. -/
def Reading.Level (r r' : Reading) : Prop := ∃ output, r' = { r with output }

variable {l l' : String → String} {r r' : Reading}

namespace Reading.Level

theorem push (h : r.Level r') (cs cs' : List Char) : (r.push cs).Level (r'.push cs') := by
  obtain ⟨output, rfl⟩ := h
  exact ⟨_, rfl⟩

theorem toMode (h : r.Level r') (mode : Mode) : Level { r with mode } { r' with mode } := by
  obtain ⟨output, rfl⟩ := h
  exact ⟨_, rfl⟩

theorem readText (h : r.Level r') (c : Char) : (readText c r).Level (readText c r') := by
  obtain ⟨output, rfl⟩ := h
  unfold EnvFile.readText
  simp only
  split_ifs <;> exact ⟨_, rfl⟩

theorem readName (h : r.Level r') (c : Char) (soFar : List Char) (braced : Bool) :
    (readName l c soFar braced r).Level (readName l' c soFar braced r') := by
  obtain ⟨output, rfl⟩ := h
  unfold EnvFile.readName
  simp only
  split_ifs <;> exact ⟨_, rfl⟩

end Reading.Level

/-- Readings on one level stay on one, and fail together. -/
theorem readValue_level (h : r.Level r') (s : List Char) :
    (readValue l r s = none ∧ readValue l' r' s = none) ∨
      ∃ q q', readValue l r s = some q ∧ readValue l' r' s = some q' ∧ q.Level q' := by
  induction s generalizing r r' with
  | nil => exact Or.inr ⟨r, r', rfl, rfl, h⟩
  | cons c cs ih =>
    have hstay := h
    obtain ⟨output, mode, weak, strong⟩ := r
    obtain ⟨output', rfl⟩ := h
    unfold readValue
    simp only
    cases mode with
    | ended =>
      simp only
      split_ifs
      · exact ih hstay
      · exact Or.inr ⟨_, _, rfl, rfl, hstay⟩
      · exact Or.inl ⟨rfl, rfl⟩
    | escaped =>
      cases escape? c with
      | none => exact Or.inl ⟨rfl, rfl⟩
      | some d => exact ih ((hstay.toMode .text).push [d] [d])
    | name soFar braced => exact ih (hstay.readName c soFar braced)
    | text =>
      simp only
      split_ifs
      · exact ih ⟨output', rfl⟩
      · exact ih (hstay.push [c] [c])
      · exact ih (hstay.readText c)

theorem value?_isSome (l l' : String → String) (s : List Char) : (value? l s).isSome = (value? l' s).isSome := by
  have hlevel : Reading.Level {} {} := ⟨[], rfl⟩
  unfold value?
  obtain ⟨h, h'⟩ | ⟨q, q', h, h', output, rfl⟩ := @readValue_level l l' _ _ hlevel s
  · rw [h, h']
  · rw [h, h']
    simp only
    split_ifs
    · rfl
    · split <;> rfl

/-- An entry without the value that it sets. -/
inductive Entry.Kind where
  | blank
  | assign (name : String)
  | unreadable
  deriving DecidableEq, Repr

def Entry.kind : Entry → Kind
  | .blank => .blank
  | .assign name _ => .assign name
  | .unreadable => .unreadable

theorem Entry.kind_parse (l l' : String → String) (line : List Char) :
    (Entry.parse l line).kind = (Entry.parse l' line).kind := by
  unfold Entry.parse
  simp only
  split_ifs
  · rfl
  cases assignment? (skipBlank (dropBlankEnd line)) with
  | none => rfl
  | some found =>
    obtain ⟨name, rest⟩ := found
    have hvalue := value?_isSome l l' (skipBlank rest)
    simp only
    split_ifs
    · rfl
    cases h : value? l (skipBlank rest) with
    | none =>
      rw [h] at hvalue
      have h' : value? l' (skipBlank rest) = none :=
        Option.not_isSome_iff_eq_none.mp (Bool.eq_false_iff.mp hvalue.symm)
      rw [h']
    | some value =>
      rw [h] at hvalue
      obtain ⟨value', h'⟩ := Option.isSome_iff_exists.mp hvalue.symm
      rw [h']
      rfl

/-! ## Entries that refer to nothing -/

/-- A reading that is not in the middle of a name. -/
def Reading.OffName (r : Reading) : Prop := ∀ soFar braced, r.mode ≠ .name soFar braced

theorem readText_offName {c : Char} (hc : c ≠ '$') (hr : r.mode = .text) : (readText c r).OffName := by
  unfold readText
  rw [if_neg hc]
  intro soFar braced
  split_ifs <;> simp [Reading.push, hr]

/-- Where there is no dollar sign nothing is looked up. -/
theorem readValue_plain (l l' : String → String) {s : List Char} (hs : '$' ∉ s) (hr : r.OffName) :
    readValue l r s = readValue l' r s ∧ ∀ q, readValue l r s = some q → q.OffName := by
  induction s generalizing r with
  | nil => exact ⟨rfl, fun q hq => by cases hq; exact hr⟩
  | cons c cs ih =>
    have hc : c ≠ '$' := fun he => hs (he ▸ List.mem_cons_self)
    have hcs : '$' ∉ cs := fun h => hs (List.mem_cons_of_mem _ h)
    unfold readValue
    cases hmode : r.mode with
    | ended =>
      simp only
      split_ifs
      · exact ih hcs hr
      · exact ⟨rfl, fun q hq => by cases hq; exact hr⟩
      · exact ⟨rfl, nofun⟩
    | escaped =>
      cases escape? c with
      | none => exact ⟨rfl, nofun⟩
      | some d => exact ih hcs fun _ _ => by simp [Reading.push]
    | name soFar braced => exact absurd hmode (hr soFar braced)
    | text =>
      simp only
      split_ifs
      · exact ih hcs fun _ _ => by simp
      · exact ih hcs fun _ _ => by simp [Reading.push, hmode]
      · exact ih hcs (readText_offName hc hmode)

theorem value?_plain (l l' : String → String) {s : List Char} (hs : '$' ∉ s) : value? l s = value? l' s := by
  obtain ⟨hsame, hoff⟩ := readValue_plain (r := {}) l l' hs nofun
  unfold value?
  rw [← hsame]
  cases h : readValue l {} s with
  | none => rfl
  | some q =>
    have hq := hoff q h
    cases hm : q.mode with
    | name soFar braced => exact absurd hm (hq soFar braced)
    | _ => simp [hm]

theorem key?_subset {s key rest : List Char} (h : key? s = some (key, rest)) : rest ⊆ s := by
  unfold key? at h
  split at h
  · cases h
    exact (List.dropWhile_sublist _).subset
  · cases h

theorem skipBlank_subset (s : List Char) : skipBlank s ⊆ s := (List.dropWhile_sublist _).subset

theorem assignment?_subset {s rest : List Char} {name : String} (h : assignment? s = some (name, rest)) :
    rest ⊆ s := by
  unfold assignment? at h
  obtain ⟨⟨key, behind⟩, hkey, h⟩ := Option.bind_eq_some_iff.mp h
  have hbehind : skipBlank behind ⊆ s := List.Subset.trans (skipBlank_subset _) (key?_subset hkey)
  simp only at h
  split at h
  · rename_i value hvalue
    cases h
    exact fun c hc => hbehind (hvalue ▸ List.mem_cons_of_mem _ hc)
  · split at h
    · cases h
    obtain ⟨⟨key', behind'⟩, hkey', h⟩ := Option.bind_eq_some_iff.mp h
    have hbehind' : skipBlank behind' ⊆ s :=
      List.Subset.trans (skipBlank_subset _) (List.Subset.trans (key?_subset hkey') hbehind)
    simp only at h
    split at h
    · rename_i value hvalue
      cases h
      exact fun c hc => hbehind' (hvalue ▸ List.mem_cons_of_mem _ hc)
    · cases h

theorem Entry.parse_plain (l l' : String → String) {line : List Char} (h : '$' ∉ line) :
    Entry.parse l line = Entry.parse l' line := by
  have hline : skipBlank (dropBlankEnd line) ⊆ line := fun c hc =>
    List.mem_reverse.mp ((List.dropWhile_sublist _).subset (List.mem_reverse.mp (skipBlank_subset _ hc)))
  unfold Entry.parse
  simp only
  split_ifs
  · rfl
  cases hassign : assignment? (skipBlank (dropBlankEnd line)) with
  | none => rfl
  | some found =>
    obtain ⟨name, rest⟩ := found
    have hrest : '$' ∉ skipBlank rest := fun hc =>
      h (hline (assignment?_subset hassign (skipBlank_subset _ hc)))
    simp only [value?_plain l l' hrest]

end NumberRegistry.EnvFile
