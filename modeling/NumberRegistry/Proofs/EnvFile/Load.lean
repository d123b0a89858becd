/-
  NumberRegistry.Proofs.EnvFile.Load — what a file adds to an environment.

  What a file assigns is written down first as a list, in the file's order and up to the
  first entry that cannot be read (`assignments`). Loading the file gives those of the
  list to the environment that it lacks, one after the other (`apply_eq`), so that a name
  that was set before keeps its value and every other one has that of its first
  assignment. A second reading may assign other values, since it finds more variables
  set than the first, but to the same names, and none of those is given again.
-/
import NumberRegistry.EnvFile.Load
import NumberRegistry.Proofs.EnvFile.Value

namespace NumberRegistry

namespace EnvFile

variable {env env' : Environment} {name : String}

/-! ## Giving variables to an environment -/

theorem isSet_iff : isSet env name ↔ env.lookup name ≠ none := by
  rw [isSet, Option.isSome_iff_ne_none]

theorem give_of_set (h : isSet env name) (value : String) : give env name value = env := if_pos h

theorem give_of_not_set (h : ¬isSet env name) (value : String) : give env name value = env ++ [(name, value)] :=
  if_neg h

theorem lookup_give (env : Environment) (name value n : String) :
    (give env name value).lookup n = (env.lookup n).or ([(name, value)].lookup n) := by
  by_cases h : isSet env name
  · rw [give_of_set h]
    cases hn : env.lookup n with
    | some v => rfl
    | none =>
      have hne : n ≠ name := by rintro rfl; exact isSet_iff.mp h hn
      simp [List.lookup_cons, beq_false_of_ne hne]
  · rw [give_of_not_set h]
    exact List.lookup_append

def giveAll (env : Environment) (pairs : List (String × String)) : Environment :=
  pairs.foldl (fun env p => give env p.1 p.2) env

theorem giveAll_cons (env : Environment) (p : String × String) (ps : List (String × String)) :
    giveAll env (p :: ps) = giveAll (give env p.1 p.2) ps := rfl

theorem giveAll_append (env : Environment) (ps qs : List (String × String)) :
    giveAll env (ps ++ qs) = giveAll (giveAll env ps) qs := List.foldl_append

/-- A name keeps its value, or it has that of the first pair that gives it one. -/
theorem lookup_giveAll (env : Environment) (pairs : List (String × String)) (n : String) :
    (giveAll env pairs).lookup n = (env.lookup n).or (pairs.lookup n) := by
  induction pairs generalizing env with
  | nil => simp [giveAll]
  | cons p ps ih =>
    rw [giveAll_cons, ih, lookup_give, Option.or_assoc, ← List.lookup_append]
    rfl

theorem giveAll_of_set {pairs : List (String × String)} (h : ∀ p ∈ pairs, isSet env p.1) :
    giveAll env pairs = env := by
  induction pairs with
  | nil => rfl
  | cons p ps ih =>
    rw [giveAll_cons, give_of_set (h p List.mem_cons_self)]
    exact ih fun q hq => h q (List.mem_cons_of_mem _ hq)

/-- What is given comes behind what was there: each name once, and none that was set. -/
theorem giveAll_adds (env : Environment) (pairs : List (String × String)) :
    ∃ added, giveAll env pairs = env ++ added ∧ (added.map (·.1)).Nodup ∧ ∀ p ∈ added, env.lookup p.1 = none := by
  induction pairs generalizing env with
  | nil => exact ⟨[], by simp [giveAll], List.nodup_nil, by simp⟩
  | cons p ps ih =>
    rw [giveAll_cons]
    by_cases h : isSet env p.1
    · rw [give_of_set h]
      exact ih env
    · obtain ⟨added, hadded, hnodup, hnew⟩ := ih (env ++ [p])
      have hp : env.lookup p.1 = none := Decidable.not_not.mp (mt isSet_iff.mpr h)
      have hne : ∀ q ∈ added, env.lookup q.1 = none ∧ q.1 ≠ p.1 := fun q hq => by
        have := hnew q hq
        rw [List.lookup_append, Option.or_eq_none_iff] at this
        exact ⟨this.1, fun he => by simp [he] at this⟩
      refine ⟨p :: added, ?_, List.nodup_cons.mpr ⟨?_, hnodup⟩, ?_⟩
      · rw [give_of_not_set h]
        exact hadded.trans (List.append_assoc _ _ _)
      · intro hmem
        obtain ⟨q, hq, he⟩ := List.mem_map.mp hmem
        exact (hne q hq).2 he
      · exact List.forall_mem_cons.mpr ⟨hp, fun q hq => (hne q hq).1⟩

theorem isSet_iff_mem : isSet env name ↔ name ∈ env.map (·.1) := by
  rw [isSet, List.lookup_isSome_iff]
  simp

/-- Which names are set afterwards does not depend on what they are set to. -/
theorem names_giveAll {pairs pairs' : List (String × String)} (henv : env.map (·.1) = env'.map (·.1))
    (hpairs : pairs.map (·.1) = pairs'.map (·.1)) :
    (giveAll env pairs).map (·.1) = (giveAll env' pairs').map (·.1) := by
  induction pairs generalizing env env' pairs' with
  | nil =>
    rw [List.map_nil] at hpairs
    rw [List.map_eq_nil_iff.mp hpairs.symm]
    exact henv
  | cons p ps ih =>
    cases pairs' with
    | nil => cases hpairs
    | cons p' ps' =>
      obtain ⟨hp, hps⟩ := List.cons_eq_cons.mp hpairs
      change p.1 = p'.1 at hp
      have hset : isSet env p.1 ↔ isSet env' p'.1 := by rw [isSet_iff_mem, isSet_iff_mem, henv, hp]
      rw [giveAll_cons, giveAll_cons]
      refine ih ?_ hps
      by_cases h : isSet env p.1
      · rw [give_of_set h, give_of_set (hset.mp h), henv]
      · rw [give_of_not_set h, give_of_not_set (mt hset.mpr h), List.map_append, List.map_append, henv]
        exact congrArg (_ ++ [·]) hp

theorem mem_iff_lookup {pairs : List (String × String)} (h : (pairs.map (·.1)).Nodup) {value : String} :
    (name, value) ∈ pairs ↔ pairs.lookup name = some value := by
  induction pairs with
  | nil => simp
  | cons p ps ih =>
    obtain ⟨n, v⟩ := p
    obtain ⟨hp, hps⟩ := List.nodup_cons.mp h
    rw [List.mem_cons, ih hps]
    by_cases hn : name = n
    · have hnone : ps.lookup name = none := List.lookup_eq_none_iff.mpr fun q hq =>
        bne_iff_ne.mpr fun he => hp (List.mem_map.mpr ⟨q, hq, he.symm.trans hn⟩)
      rw [hnone]
      simp [hn, eq_comm]
    · simp [List.lookup_cons, beq_false_of_ne hn, hn]

/-! ## Assignments -/

/-- What lines assign, up to the first that cannot be read. In a value a name stands for
    what it is in the environment or, if it is not set there, for what was first assigned
    to it before. -/
def assignments (env : Environment) (before : List (String × String)) :
    List (Option (List Char)) → List (String × String)
  | [] => []
  | none :: _ => []
  | some line :: rest =>
    match Entry.parse (lookup env before) line with
    | .blank => assignments env before rest
    | .unreadable => []
    | .assign name value => (name, value) :: assignments env (before ++ [(name, value)]) rest

theorem lookup_reverse_isSome (pairs : List (String × String)) (n : String) :
    (pairs.reverse.lookup n).isSome = (pairs.lookup n).isSome := by
  rw [Bool.eq_iff_iff, List.lookup_isSome_iff, List.lookup_isSome_iff]
  simp

/-- While lines are loaded the environment itself holds what was assigned before. -/
theorem lookup_giveAll_reverse (env : Environment) (before : List (String × String)) :
    lookup (giveAll env before) before.reverse = lookup env before := by
  funext n
  rw [lookup, lookup, lookup_giveAll]
  cases he : env.lookup n with
  | some v => rfl
  | none =>
    cases hb : before.lookup n with
    | some v => rfl
    | none =>
      have hr : before.reverse.lookup n = none := by
        rw [← Option.not_isSome_iff_eq_none, lookup_reverse_isSome, hb]
        exact Bool.false_ne_true
      simp [hr]

/-- Loading lines gives the environment what they assign, in their order. -/
theorem apply_eq (env : Environment) (before : List (String × String)) (lines : List (Option (List Char))) :
    apply (giveAll env before) before.reverse lines =
      giveAll (giveAll env before) (assignments env before lines) := by
  induction lines generalizing before with
  | nil => rfl
  | cons line rest ih =>
    cases line with
    | none => rfl
    | some line =>
      rw [apply, assignments, lookup_giveAll_reverse]
      cases Entry.parse (lookup env before) line with
      | blank => exact ih before
      | unreadable => rfl
      | assign name value =>
        have h := ih (before ++ [(name, value)])
        rw [giveAll_append, List.reverse_append] at h
        exact h

theorem names_assignments (env env' : Environment) (before before' : List (String × String))
    (lines : List (Option (List Char))) :
    (assignments env before lines).map (·.1) = (assignments env' before' lines).map (·.1) := by
  induction lines generalizing before before' with
  | nil => rfl
  | cons line rest ih =>
    cases line with
    | none => rfl
    | some line =>
      have hkind := Entry.kind_parse (lookup env before) (lookup env' before') line
      unfold assignments
      split <;> rename_i h <;> split <;> rename_i h' <;> rw [h, h'] at hkind <;> cases hkind
      · exact ih before before'
      · exact congrArg (_ :: ·) (ih _ _)

/-- What a file assigns in an environment. -/
def fileAssignments (file : Option String) (env : Environment) : List (String × String) :=
  file.elim [] fun text => assignments env [] (entries [] .plain (splitLines (withoutMark text.toList)))

theorem loadNearest_eq (file : Option String) (env : Environment) :
    loadNearest file env = giveAll env (fileAssignments file env) := by
  cases file with
  | none => rfl
  | some text => exact apply_eq env [] _

/-- What a file adds to an environment, and how it is found there. -/
theorem loadNearest_adds (file : Option String) (env : Environment) :
    ∃ added, loadNearest file env = env ++ added ∧ (added.map (·.1)).Nodup ∧
      ∀ name value, (name, value) ∈ added ↔
        env.lookup name = none ∧ (loadNearest file env).lookup name = some value := by
  obtain ⟨added, hadded, hnodup, hnew⟩ := giveAll_adds env (fileAssignments file env)
  rw [← loadNearest_eq] at hadded
  refine ⟨added, hadded, hnodup, fun name value => ?_⟩
  rw [hadded, List.lookup_append, mem_iff_lookup hnodup]
  constructor
  · intro hvalue
    have hunset : env.lookup name = none := hnew _ ((mem_iff_lookup hnodup).mpr hvalue)
    exact ⟨hunset, by rw [hunset, hvalue]; rfl⟩
  · rintro ⟨hunset, hvalue⟩
    rwa [hunset, Option.none_or] at hvalue

theorem names_fileAssignments (file : Option String) (env env' : Environment) :
    (fileAssignments file env).map (·.1) = (fileAssignments file env').map (·.1) := by
  cases file with
  | none => rfl
  | some text => exact names_assignments _ _ _ _ _

theorem names_loadNearest (file : Option String) (h : env.map (·.1) = env'.map (·.1)) :
    (loadNearest file env).map (·.1) = (loadNearest file env').map (·.1) := by
  rw [loadNearest_eq, loadNearest_eq]
  exact names_giveAll h (names_fileAssignments file env env')

/-- A file that was read sets nothing when it is read again. -/
theorem loadNearest_idem (file : Option String) (env : Environment) :
    loadNearest file (loadNearest file env) = loadNearest file env := by
  rw [loadNearest_eq file (loadNearest file env)]
  refine giveAll_of_set fun p hp => isSet_iff.mpr ?_
  have hmem : p.1 ∈ (fileAssignments file env).map (·.1) :=
    names_fileAssignments file (loadNearest file env) env ▸ List.mem_map_of_mem hp
  have hset : isSet (fileAssignments file env) p.1 := isSet_iff_mem.mpr hmem
  rw [loadNearest_eq, lookup_giveAll]
  intro hnone
  exact isSet_iff.mp hset (Option.or_eq_none_iff.mp hnone).2

/-! ## Files that refer to nothing -/

section
variable {c : Char}

theorem mem_splitLines {s l : List Char} (hl : l ∈ splitLines s) (hc : c ∈ l) : c ∈ s := by
  induction s using splitLines.induct generalizing l with
  | case1 => cases hl
  | case2 cs ih =>
    rw [splitLines] at hl
    obtain rfl | hl := List.mem_cons.mp hl
    · rw [List.mem_singleton.mp hc]; exact List.mem_cons_self
    · exact List.mem_cons_of_mem _ (ih hl hc)
  | case3 d cs hd k ks hsplit ih =>
    rw [splitLines, hsplit] at hl
    · obtain rfl | hl := List.mem_cons.mp hl
      · obtain rfl | hc := List.mem_cons.mp hc
        · exact List.mem_cons_self
        · exact List.mem_cons_of_mem _ (ih (hsplit ▸ List.mem_cons_self) hc)
      · exact List.mem_cons_of_mem _ (ih (hsplit ▸ List.mem_cons_of_mem _ hl) hc)
    · exact hd
  | case4 d cs hd hsplit ih =>
    rw [splitLines, hsplit] at hl
    · rw [List.mem_singleton.mp hl] at hc
      rw [List.mem_singleton.mp hc]
      exact List.mem_cons_self
    · exact hd

theorem mem_scan {s : Standing} {done l before : List Char} (h : scan s done l = .comment before) (hc : c ∈ before) :
    c ∈ done ∨ c ∈ l := by
  induction l generalizing s done with
  | nil => cases h
  | cons d ds ih =>
    unfold scan at h
    split at h
    · cases h; exact Or.inl hc
    · obtain hdone | hds := ih h
      · obtain hdone | hd := List.mem_append.mp hdone
        · exact Or.inl hdone
        · exact Or.inr (List.mem_singleton.mp hd ▸ List.mem_cons_self)
      · exact Or.inr (List.mem_cons_of_mem _ hds)

theorem dropLineBreak_subset (l : List Char) : dropLineBreak l ⊆ l := by
  intro c hc
  unfold dropLineBreak at hc
  split at hc
  · rename_i rest h
    exact List.mem_reverse.mp (h ▸ List.mem_cons_of_mem _ (List.mem_cons_of_mem _ (List.mem_reverse.mp hc)))
  · rename_i rest _ h
    exact List.mem_reverse.mp (h ▸ List.mem_cons_of_mem _ (List.mem_reverse.mp hc))
  · exact hc

theorem mem_entries {pending : List Char} {s : Standing} {ls : List (List Char)} {line : List Char}
    (h : some line ∈ entries pending s ls) (hc : c ∈ line) : c ∈ pending ∨ ∃ l ∈ ls, c ∈ l := by
  induction ls generalizing pending s with
  | nil =>
    unfold entries at h
    split at h <;> simp at h
  | cons l ls ih =>
    -- What the entries behind this line hold comes from the lines behind it.
    have hlater {t : Standing} (h : some line ∈ entries [] t ls) : c ∈ pending ∨ ∃ k ∈ l :: ls, c ∈ k := by
      obtain hnil | ⟨k, hk, hck⟩ := ih h
      · cases hnil
      · exact Or.inr ⟨k, List.mem_cons_of_mem _ hk, hck⟩
    have hhere (h : c ∈ pending ∨ c ∈ l) : c ∈ pending ∨ ∃ k ∈ l :: ls, c ∈ k :=
      h.imp id fun hl => ⟨l, List.mem_cons_self, hl⟩
    unfold entries at h
    split at h
    · exact hlater h
    split at h
    · rename_i before hscan
      obtain he | h := List.mem_cons.mp h
      · cases he
        refine hhere ((List.mem_append.mp hc).imp id fun hb => ?_)
        exact (mem_scan hscan hb).elim (fun hnil => by cases hnil) id
      · exact hlater h
    · obtain he | h := List.mem_cons.mp h
      · cases he
        exact hhere (List.mem_append.mp (dropLineBreak_subset _ hc))
      · exact hlater h
    · obtain hp | ⟨k, hk, hck⟩ := ih h
      · exact hhere (List.mem_append.mp hp)
      · exact Or.inr ⟨k, List.mem_cons_of_mem _ hk, hck⟩

end

/-- Lines without a dollar sign assign the same whatever the environment is. -/
theorem assignments_plain {lines : List (Option (List Char))} (h : ∀ line, some line ∈ lines → '$' ∉ line)
    (env env' : Environment) (before before' : List (String × String)) :
    assignments env before lines = assignments env' before' lines := by
  induction lines generalizing before before' with
  | nil => rfl
  | cons line rest ih =>
    have hrest := ih fun l hl => h l (List.mem_cons_of_mem _ hl)
    cases line with
    | none => rfl
    | some line =>
      have hparse := Entry.parse_plain (lookup env before) (lookup env' before') (h line List.mem_cons_self)
      unfold assignments
      rw [hparse]
      split
      · exact hrest before before'
      · rfl
      · exact congrArg (_ :: ·) (hrest _ _)

theorem fileAssignments_plain {file : Option String} (h : ∀ text ∈ file, '$' ∉ text.toList) (env env' : Environment) :
    fileAssignments file env = fileAssignments file env' := by
  cases file with
  | none => rfl
  | some text =>
    refine assignments_plain (fun line hline hc => ?_) env env' [] []
    obtain hnil | ⟨l, hl, hcl⟩ := mem_entries hline hc
    · cases hnil
    have hmark : withoutMark text.toList ⊆ text.toList := by
      unfold withoutMark
      split
      · rename_i rest htext
        rw [htext]
        exact List.subset_cons_self _ _
      · exact List.Subset.refl _
    exact h text rfl (hmark (mem_splitLines hl hcl))

end EnvFile

theorem Settings.load_loadNearest (file : Option String) (env : Environment) :
    Settings.load file (EnvFile.loadNearest file env) = Settings.load file env := by
  unfold Settings.load
  rw [EnvFile.loadNearest_idem]

open EnvFile in
/-- Loading leaves every variable that is set as it is and puts behind them, once each,
    the names that the nearest file assigns, with what it first assigns to them; the
    settings are those of the environment that this makes. After a reading of the file the
    same file changes neither the environment nor the settings. -/
theorem Settings.load_first_assignments (files : List (Option String)) (env : Environment) :
    let file := nearest files
    let given := fileAssignments file env
    let loaded := Settings.load file env
    (∃ added, loaded.2 = env ++ added ∧ (added.map (·.1)).Nodup ∧
      ∀ name value, (name, value) ∈ added ↔ env.lookup name = none ∧ given.lookup name = some value) ∧
    (∀ name, loaded.2.lookup name = (env.lookup name).or (given.lookup name)) ∧
    loaded.1 = Settings.ofPairs loaded.2 ∧
    Settings.load file (loadNearest file env) = loaded ∧
    Settings.load file loaded.2 = loaded := by
  intro file given loaded
  have hlookup : ∀ name, loaded.2.lookup name = (env.lookup name).or (given.lookup name) := by
    intro name
    rw [← lookup_giveAll, ← loadNearest_eq]
    rfl
  have hagain : Settings.load file (loadNearest file env) = loaded := Settings.load_loadNearest file env
  obtain ⟨added, hadded, hnodup, hmem⟩ := loadNearest_adds file env
  refine ⟨⟨added, hadded, hnodup, fun name value => ?_⟩, hlookup, rfl, hagain, hagain⟩
  rw [hmem, show (loadNearest file env).lookup name = _ from hlookup name]
  refine and_congr_right fun hunset => ?_
  rw [hunset, Option.none_or]

end NumberRegistry
