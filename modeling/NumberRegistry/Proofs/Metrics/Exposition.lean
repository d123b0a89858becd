/-
  NumberRegistry.Proofs.Metrics.Exposition — what an exposition says of a series.

  A series is shown by one line, its name and its count, or not at all while nothing was
  counted for it (`Says`). The lines are sorted, and those of other metrics and their
  help stand among them; they begin otherwise (`says_inserted`, `says_healthFailures`,
  `says_storeErrors`, `says_latencies`).
-/
import NumberRegistry.Metrics

namespace NumberRegistry.Metrics

open Text

/-- The line begins with the series. -/
def isOf (series line : String) : Bool := (series ++ " ").toList.isPrefixOf line.toList

/-- The lines show this count for the series, and nothing for a count of nothing. -/
def Says (lines : List String) (series : String) (n : Nat) : Prop :=
  lines.filter (isOf series) = plain series n

/-! ## Counts by label -/

/-- What is counted for some labels: one positive count for each that was counted. -/
structure Counts (labels : List String) (counts : List (String × Nat)) : Prop where
  known : ∀ p ∈ counts, p.1 ∈ labels
  once : (counts.map (·.1)).Nodup
  positive : ∀ p ∈ counts, 0 < p.2

theorem counts_nil (labels : List String) : Counts labels [] := ⟨by simp, by simp, by simp⟩

theorem mem_bump {label : String} {p : String × Nat} : ∀ {counts : List (String × Nat)},
    p ∈ bump label counts → p.1 = label ∧ 0 < p.2 ∨ p ∈ counts := by
  intro counts
  induction counts with
  | nil => intro h; simp only [bump, List.mem_singleton] at h; subst h; exact Or.inl ⟨rfl, by simp⟩
  | cons q rest ih =>
    intro h
    simp only [bump] at h
    split at h
    · rename_i hq
      rcases List.mem_cons.mp h with rfl | h
      · exact Or.inl ⟨hq, Nat.succ_pos _⟩
      · exact Or.inr (List.mem_cons_of_mem _ h)
    · rcases List.mem_cons.mp h with rfl | h
      · exact Or.inr (List.mem_cons_self ..)
      · exact (ih h).imp_right (List.mem_cons_of_mem _)

theorem bump_once {label : String} : ∀ {counts : List (String × Nat)},
    (counts.map (·.1)).Nodup → ((bump label counts).map (·.1)).Nodup := by
  intro counts
  induction counts with
  | nil => intro _; simp [bump]
  | cons q rest ih =>
    intro h
    simp only [List.map_cons, List.nodup_cons] at h
    simp only [bump]
    split
    · simpa using h
    · rename_i hq
      simp only [List.map_cons, List.nodup_cons]
      refine ⟨fun hm => ?_, ih h.2⟩
      obtain ⟨p, hp, he⟩ := List.mem_map.mp hm
      rcases mem_bump hp with hl | hp
      · exact hq (he.symm.trans hl.1)
      · exact h.1 (List.mem_map.mpr ⟨p, hp, he⟩)

theorem Counts.bump {labels : List String} {counts : List (String × Nat)} (h : Counts labels counts)
    {label : String} (hl : label ∈ labels) : Counts labels (bump label counts) := by
  refine ⟨fun p hp => ?_, bump_once h.once, fun p hp => ?_⟩
  · rcases mem_bump hp with hp | hp
    · rw [hp.1]; exact hl
    · exact h.known p hp
  · rcases mem_bump hp with hp | hp
    · exact hp.2
    · exact h.positive p hp

theorem count_eq_zero {label : String} {counts : List (String × Nat)} (h : label ∉ counts.map (·.1)) :
    count label counts = 0 ∧ counts.filter (·.1 = label) = [] := by
  induction counts with
  | nil => exact ⟨rfl, rfl⟩
  | cons p rest ih =>
    simp only [List.map_cons, List.mem_cons, not_or] at h
    have hp : p.1 ≠ label := fun he => h.1 he.symm
    simp [count, hp, ih h.2]

/-- The entry for a label is its count, and there is none for a count of nothing. -/
theorem filter_label {label : String} {counts : List (String × Nat)} (h : (counts.map (·.1)).Nodup)
    (hpos : ∀ p ∈ counts, 0 < p.2) :
    counts.filter (·.1 = label) = if count label counts = 0 then [] else [(label, count label counts)] := by
  induction counts with
  | nil => simp [count]
  | cons p rest ih =>
    simp only [List.map_cons, List.nodup_cons] at h
    by_cases hp : p.1 = label
    · subst hp
      have := hpos p (List.mem_cons_self ..)
      rw [List.filter_cons_of_pos (by simp), (count_eq_zero h.1).2]
      simp [count]; omega
    · rw [List.filter_cons_of_neg (by simpa using hp), ih h.2 fun q hq => hpos q (List.mem_cons_of_mem _ hq)]
      simp [count, hp]

/-! ## Lines -/

/-- The series of a metric for one value of its label. -/
def series (name label value : String) : String :=
  name ++ "\x7b" ++ label ++ "=\"" ++ String.ofList (escapeLabel false value.toList) ++ "\"\x7d"

theorem labelled_eq (name label : String) (p : String × Nat) :
    labelled name label p = series name label p.1 ++ " " ++ Decimal.ofNat p.2 := by
  apply String.toList_inj.mp
  simp [labelled, series]

/-- A line that begins with another letter is none of the series. -/
theorem not_isOf {series line : String} {c d : Char} (hs : series.toList.head? = some c)
    (hl : line.toList.head? = some d) (h : c ≠ d) : isOf series line = false := by
  obtain ⟨x, hx⟩ := List.head?_eq_some_iff.mp hs
  obtain ⟨y, hy⟩ := List.head?_eq_some_iff.mp hl
  simp [isOf, List.isPrefixOf, hx, hy, h]

theorem filter_not_isOf {series : String} {c d : Char} {lines : List String}
    (hs : series.toList.head? = some c) (hl : ∀ line ∈ lines, line.toList.head? = some d) (h : c ≠ d) :
    lines.filter (isOf series) = [] := by
  rw [List.filter_eq_nil_iff]
  intro line hline
  simp [not_isOf hs (hl line hline) h]

/-- The help and the type of a metric are lines of no series. -/
theorem filter_family (m : Metrics) {series name kind help : String} {values : List String} {c : Char}
    (hs : series.toList.head? = some c) (hc : c ≠ '#') :
    (m.family name kind help values).filter (isOf series) = values.filter (isOf series) := by
  have hhelp : isOf series ("# HELP " ++ name ++ " " ++ help) = false :=
    not_isOf (d := '#') hs (by simp) hc
  have htype : isOf series ("# TYPE " ++ name ++ " " ++ kind) = false :=
    not_isOf (d := '#') hs (by simp) hc
  unfold family
  split
  · rename_i hv; rw [hv]
  · split <;> simp [hhelp, htype]

theorem head_labelled {name label line : String} {counts : List (String × Nat)} {c : Char}
    (hn : name.toList.head? = some c) (h : line ∈ counts.map (labelled name label)) :
    line.toList.head? = some c := by
  obtain ⟨p, _, rfl⟩ := List.mem_map.mp h
  obtain ⟨x, hx⟩ := List.head?_eq_some_iff.mp hn
  simp [labelled, hx]

theorem head_plain {name line : String} {n : Nat} {c : Char} (hn : name.toList.head? = some c)
    (h : line ∈ plain name n) : line.toList.head? = some c := by
  obtain ⟨x, hx⟩ := List.head?_eq_some_iff.mp hn
  unfold plain at h
  split at h
  · cases h
  · rw [List.mem_singleton.mp h]; simp [hx]

theorem filter_plain (name : String) (n : Nat) : (plain name n).filter (isOf name) = plain name n := by
  unfold plain
  split
  · rfl
  · have h : isOf name (name ++ " " ++ Decimal.ofNat n) = true := by
      simp [isOf, String.toList_append]
    simp [h]

/-- Among the lines of a metric, those of the series of one label show its count. -/
theorem filter_labelled {name label value : String} {labels : List String} {counts : List (String × Nat)}
    (h : Counts labels counts)
    (hsep : ∀ p ∈ counts, isOf (series name label value) (labelled name label p) = decide (p.1 = value)) :
    (counts.map (labelled name label)).filter (isOf (series name label value)) =
      plain (series name label value) (count value counts) := by
  have hf : counts.filter (isOf (series name label value) ∘ labelled name label) =
      counts.filter (·.1 = value) := List.filter_congr hsep
  rw [List.filter_map, hf, filter_label h.once h.positive]
  unfold plain
  split
  · rfl
  · simp [labelled_eq]

theorem says_of_perm {lines others : List String} {series : String} {n : Nat} (hp : lines.Perm others)
    (h : others.filter (isOf series) = plain series n) : Says lines series n := by
  have hf := hp.filter (isOf series)
  rw [h] at hf
  unfold Says plain at *
  split
  · rename_i hn; rw [if_pos hn] at hf; exact hf.eq_nil
  · rename_i hn; rw [if_neg hn] at hf; exact List.perm_singleton.mp hf

theorem says_inserted (m : Metrics) : Says m.exposition insertedName m.inserted := by
  have hs : insertedName.toList.head? = some 'n' := rfl
  refine says_of_perm (List.mergeSort_perm _ _) ?_
  simp only [List.filter_append, filter_family m hs (by decide), filter_plain]
  rw [filter_not_isOf hs (fun _ h => head_labelled (c := 'h') rfl h) (by decide),
    filter_not_isOf hs (fun _ h => head_labelled (c := 's') rfl h) (by decide),
    filter_not_isOf hs (fun _ h => head_plain (c := 'd') rfl h) (by decide)]
  simp

theorem says_healthFailures (m : Metrics) : Says m.exposition healthFailuresName m.healthFailures := by
  have hs : healthFailuresName.toList.head? = some 'd' := rfl
  refine says_of_perm (List.mergeSort_perm _ _) ?_
  simp only [List.filter_append, filter_family m hs (by decide), filter_plain]
  rw [filter_not_isOf hs (fun _ h => head_labelled (c := 'h') rfl h) (by decide),
    filter_not_isOf hs (fun _ h => head_plain (c := 'n') rfl h) (by decide),
    filter_not_isOf hs (fun _ h => head_labelled (c := 's') rfl h) (by decide)]
  simp

theorem says_storeErrors (m : Metrics) (h : Counts ["insert", "list"] m.storeErrors) {operation : String}
    (ho : operation ∈ ["insert", "list"]) :
    Says m.exposition (series storeErrorsName "operation" operation) (count operation m.storeErrors) := by
  have hs : (series storeErrorsName "operation" operation).toList.head? = some 's' := by
    simp [series, storeErrorsName]
  refine says_of_perm (List.mergeSort_perm _ _) ?_
  simp only [List.filter_append, filter_family m hs (by decide)]
  rw [filter_not_isOf hs (fun _ h => head_labelled (c := 'h') rfl h) (by decide),
    filter_not_isOf hs (fun _ h => head_plain (c := 'n') rfl h) (by decide),
    filter_not_isOf hs (fun _ h => head_plain (c := 'd') rfl h) (by decide),
    filter_labelled h fun p hp => ?_]
  · simp
  · have hk := h.known p hp
    rw [labelled_eq]
    generalize p.1 = known at hk
    simp only [List.mem_cons, List.not_mem_nil, or_false] at hk ho
    rcases hk with rfl | rfl <;> rcases ho with rfl | rfl <;>
      simp [isOf, series, escapeLabel, storeErrorsName, List.isPrefixOf]

theorem says_latencies (m : Metrics) (h : Counts [addNumber] m.latencies) :
    Says m.exposition (series (latencyName ++ "_count") "endpoint" addNumber) (count addNumber m.latencies) := by
  have hs : (series (latencyName ++ "_count") "endpoint" addNumber).toList.head? = some 'h' := by
    simp [series, latencyName]
  refine says_of_perm (List.mergeSort_perm _ _) ?_
  simp only [List.filter_append, filter_family m hs (by decide)]
  rw [filter_labelled h fun p hp => ?_, filter_not_isOf hs (fun _ h => head_plain (c := 'n') rfl h) (by decide),
    filter_not_isOf hs (fun _ h => head_labelled (c := 's') rfl h) (by decide),
    filter_not_isOf hs (fun _ h => head_plain (c := 'd') rfl h) (by decide)]
  · simp
  · rw [labelled_eq, List.mem_singleton.mp (h.known p hp)]
    simp [isOf, series]

end NumberRegistry.Metrics
