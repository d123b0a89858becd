/-
  NumberRegistry.Proofs.Text.Parts — texts cut into parts, and put together of parts.

  A text is cut where its first part ends and something else begins (`takeWhile_exact`,
  `dropWhile_exact`). Parts with a separator between them hold their own characters and
  the separators, one less than there are parts. A reader of parts succeeds on a list if
  it does on each of them (`mapM_of_forall`, `mem_mapM`), and fails if it fails on one
  (`mapM_none`).
-/
namespace NumberRegistry.Text

/-! ## Cut -/

section
variable {α : Type} {p : α → Bool} {front rest : List α}

theorem takeWhile_exact (hfront : ∀ x ∈ front, p x = true) (hrest : ∀ x ∈ rest.head?, p x = false) :
    (front ++ rest).takeWhile p = front := by
  rw [List.takeWhile_append_of_pos hfront]
  cases rest with
  | nil => simp
  | cons x rest => simp [hrest x rfl]

theorem dropWhile_exact (hfront : ∀ x ∈ front, p x = true) (hrest : ∀ x ∈ rest.head?, p x = false) :
    (front ++ rest).dropWhile p = rest := by
  rw [List.dropWhile_append_of_pos hfront]
  cases rest with
  | nil => simp
  | cons x rest => simp [hrest x rfl]

theorem dropWhile_of_head (h : ∀ x ∈ rest.head?, p x = false) : rest.dropWhile p = rest :=
  @dropWhile_exact _ p [] rest nofun h

/-- What is dropped from the end does not reach into a part that ends in something else. -/
theorem dropEnd_append (hfront : ∀ x ∈ front.getLast?, p x = false) :
    ((front ++ rest).reverse.dropWhile p).reverse = front ++ (rest.reverse.dropWhile p).reverse := by
  have hkeep : front.reverse.dropWhile p = front.reverse :=
    dropWhile_of_head (by rwa [List.head?_reverse])
  rw [List.reverse_append, List.dropWhile_append]
  split
  · rename_i h
    rw [List.isEmpty_iff.mp h, hkeep, List.reverse_reverse, List.reverse_nil, List.append_nil]
  · rw [List.reverse_append, List.reverse_reverse]

end

/-! ## Put together -/

theorem mem_intercalate {sep c : Char} : ∀ {parts : List (List Char)}, c ∈ [sep].intercalate parts →
    c = sep ∨ ∃ p ∈ parts, c ∈ p
  | [], h => by simp at h
  | [p], h => Or.inr ⟨p, List.mem_cons_self, by simpa using h⟩
  | p :: q :: ps, h => by
    rw [List.intercalate_cons_cons, List.append_assoc, List.mem_append, List.mem_append] at h
    rcases h with h | h | h
    · exact Or.inr ⟨p, List.mem_cons_self, h⟩
    · exact Or.inl (List.mem_singleton.mp h)
    · rcases mem_intercalate h with h | ⟨r, hr, hc⟩
      · exact Or.inl h
      · exact Or.inr ⟨r, List.mem_cons_of_mem _ hr, hc⟩

theorem length_intercalate_le (sep : Char) {k : Nat} : ∀ {parts : List (List Char)}, (∀ p ∈ parts, p.length ≤ k) →
    ([sep].intercalate parts).length ≤ (k + 1) * parts.length
  | [], _ => by simp
  | [p], h => by have := h p List.mem_cons_self; simp; omega
  | p :: q :: ps, h => by
    have hp := h p List.mem_cons_self
    have ih := length_intercalate_le sep fun r hr => h r (List.mem_cons_of_mem p hr)
    rw [List.intercalate_cons_cons, List.append_assoc, List.length_append, List.length_append,
      List.length_singleton, List.length_cons, Nat.mul_add, Nat.mul_one]
    omega

theorem count_intercalate_le (sep : Char) : ∀ {parts : List (List Char)}, (∀ p ∈ parts, sep ∉ p) →
    ([sep].intercalate parts).count sep ≤ parts.length
  | [], _ => by simp
  | [p], h => by simp [List.count_eq_zero.mpr (h p List.mem_cons_self)]
  | p :: q :: ps, h => by
    have ih := count_intercalate_le sep fun r hr => h r (List.mem_cons_of_mem p hr)
    rw [List.intercalate_cons_cons, List.append_assoc, List.count_append, List.count_append,
      List.count_eq_zero.mpr (h p List.mem_cons_self), List.count_singleton_self, List.length_cons]
    omega

/-! ## Each read -/

section
variable {α β : Type} {f : α → Option β}

theorem mapM_of_forall {g : α → β} {l : List α} (h : ∀ a ∈ l, f a = some (g a)) : l.mapM f = some (l.map g) := by
  induction l with
  | nil => rfl
  | cons a l ih =>
    rw [List.mapM_cons, h a List.mem_cons_self, ih fun b hb => h b (List.mem_cons_of_mem a hb)]
    rfl

/-- What is written of each is read again. -/
theorem mapM_map_of_forall {g : β → α} {r : List β} (h : ∀ b ∈ r, f (g b) = some b) : (r.map g).mapM f = some r := by
  rw [List.mapM_map]
  exact (mapM_of_forall h).trans (congrArg some (List.map_id r))

theorem mapM_none {l : List α} {a : α} (ha : a ∈ l) (h : f a = none) : l.mapM f = none := by
  induction l with
  | nil => cases ha
  | cons b l ih =>
    rw [List.mapM_cons]
    rcases List.mem_cons.mp ha with rfl | ha
    · rw [h]
      rfl
    · rw [ih ha]
      cases f b <;> rfl

theorem mem_mapM {l : List α} {r : List β} (h : l.mapM f = some r) :
    r.length = l.length ∧ ∀ b ∈ r, ∃ a ∈ l, f a = some b := by
  induction l generalizing r with
  | nil =>
    cases h
    exact ⟨rfl, nofun⟩
  | cons a l ih =>
    simp only [List.mapM_cons, Option.pure_def, Option.bind_eq_bind, Option.bind_eq_some_iff, Option.some.injEq] at h
    obtain ⟨b, hb, r, hr, rfl⟩ := h
    obtain ⟨hlength, hmem⟩ := ih hr
    refine ⟨congrArg (· + 1) hlength, List.forall_mem_cons.mpr ⟨⟨a, List.mem_cons_self, hb⟩, fun c hc => ?_⟩⟩
    obtain ⟨d, hd, hc⟩ := hmem c hc
    exact ⟨d, List.mem_cons_of_mem a hd, hc⟩

end

end NumberRegistry.Text
