/-
  NumberRegistry.Proofs.Settings.Load — which settings an environment stands for.

  Each field has a value of one of two kinds, a text or a number with a bound (`Value`,
  `Field.bound?`). `Field.Reads` says which values the text of a variable may give to a
  field, and `Loaded` which settings a list of pairs leads to, without going along the
  list: no field is named twice, a field that is named has a value that the pair's text
  reads as, and a field that is not named has the value it had. Reading the list pair by
  pair finds just these settings (`loadFrom_ok_iff`, by induction on the list: what one
  pair does is `loaded_cons_set`), and finds some wherever there can be any
  (`loadFrom_ok_of_readable`). None of this knows an order (`pairs_any_order`).
-/
import Mathlib.Data.List.Nodup
import Mathlib.Data.List.Pairwise
import Mathlib.Data.List.Perm.Basic
import NumberRegistry.Proofs.Text.Decimal
import NumberRegistry.Settings.Load

namespace NumberRegistry.Settings

open Text

/-! ## Fields and their values -/

inductive Value where
  | unset
  | text (t : String)
  | number (n : Nat)
  deriving DecidableEq, Repr

/-- What a field holds. -/
def value (s : Settings) : Field → Value
  | .postgresDsn => s.postgresDsn.elim .unset .text
  | .poolMaxConnections => .number s.poolMaxConnections.toNat
  | .poolMinConnections => .number s.poolMinConnections.toNat
  | .poolMaxLifetimeSecs => .number s.poolMaxLifetimeSecs.toNat
  | .poolMaxIdleSecs => .number s.poolMaxIdleSecs.toNat
  | .poolHealthCheckSecs => .number s.poolHealthCheckSecs.toNat
  | .poolAcquireTimeoutSecs => .number s.poolAcquireTimeoutSecs.toNat
  | .serverAddr => .text s.serverAddr
  | .requestTimeoutSecs => .number s.requestTimeoutSecs.toNat
  | .shutdownTimeoutSecs => .number s.shutdownTimeoutSecs.toNat
  | .logLevel => .text s.logLevel

theorem ext_value {s t : Settings} (h : ∀ f, s.value f = t.value f) : s = t := by
  have hdsn : s.postgresDsn = t.postgresDsn := by
    have h := h .postgresDsn
    cases hs : s.postgresDsn <;> cases ht : t.postgresDsn <;> simp_all [value]
  have hmax := UInt32.toNat_inj.mp (Value.number.inj (h .poolMaxConnections))
  have hmin := UInt32.toNat_inj.mp (Value.number.inj (h .poolMinConnections))
  have hlifetime := UInt64.toNat_inj.mp (Value.number.inj (h .poolMaxLifetimeSecs))
  have hidle := UInt64.toNat_inj.mp (Value.number.inj (h .poolMaxIdleSecs))
  have hhealth := UInt64.toNat_inj.mp (Value.number.inj (h .poolHealthCheckSecs))
  have hacquire := UInt64.toNat_inj.mp (Value.number.inj (h .poolAcquireTimeoutSecs))
  have haddr : s.serverAddr = t.serverAddr := Value.text.inj (h .serverAddr)
  have hrequest := UInt64.toNat_inj.mp (Value.number.inj (h .requestTimeoutSecs))
  have hshutdown := UInt64.toNat_inj.mp (Value.number.inj (h .shutdownTimeoutSecs))
  have hlevel : s.logLevel = t.logLevel := Value.text.inj (h .logLevel)
  cases s
  cases t
  simp_all

/-- The largest number that a field can hold, if it holds a number. -/
def Field.bound? : Field → Option Nat
  | .postgresDsn | .serverAddr | .logLevel => none
  | .poolMaxConnections | .poolMinConnections => some (UInt32.size - 1)
  | .poolMaxLifetimeSecs | .poolMaxIdleSecs | .poolHealthCheckSecs | .poolAcquireTimeoutSecs
  | .requestTimeoutSecs | .shutdownTimeoutSecs => some (UInt64.size - 1)

/-- The text of a variable, read as a value of the field. -/
inductive Field.Reads (f : Field) (text : String) : Value → Prop
  | text (h : f.bound? = none) : Reads f text (.text text)
  | number {max n : Nat} (h : f.bound? = some max) (hn : Decimal.Unsigned text.toList n) (hmax : n ≤ max) :
      Reads f text (.number n)

theorem Field.Reads.unique {f : Field} {text : String} {v w : Value} (hv : f.Reads text v) (hw : f.Reads text w) :
    v = w := by
  cases hv with
  | text h =>
    cases hw with
    | text => rfl
    | number h' => rw [h] at h'; cases h'
  | number h hn =>
    cases hw with
    | text h' => rw [h] at h'; cases h'
    | number _ hm => rw [hn.unique hm]

/-- The variable is one for the field: in small letters it has the field's name. -/
def Field.NamedBy (f : Field) (key : String) : Prop := key.toList.map smallLetter = f.name.toList

instance (f : Field) (key : String) : Decidable (f.NamedBy key) := inferInstanceAs (Decidable (_ = _))

theorem Field.NamedBy.unique {f g : Field} {key : String} (hf : f.NamedBy key) (hg : g.NamedBy key) : f = g := by
  have hnodup : (Field.all.map Field.name).Nodup := by decide
  have hname : f.name = g.name := String.toList_inj.mp (hf.symm.trans hg)
  exact List.inj_on_of_nodup_map hnodup f.mem_all g.mem_all hname

theorem Field.ofVariable?_some_iff {f : Field} {key : String} : Field.ofVariable? key = some f ↔ f.NamedBy key := by
  have hfound {g : Field} (h : Field.ofVariable? key = some g) : g.NamedBy key := by
    have hg := List.find?_some h
    exact of_decide_eq_true hg
  refine ⟨hfound, fun h => ?_⟩
  cases hkey : Field.ofVariable? key with
  | none => exact absurd (decide_eq_true h) (List.find?_eq_none.mp hkey f f.mem_all)
  | some g => rw [(hfound hkey).unique h]

theorem Field.ofVariable?_none_iff {key : String} : Field.ofVariable? key = none ↔ ∀ f : Field, ¬ f.NamedBy key := by
  rw [Option.eq_none_iff_forall_ne_some]
  simp only [ne_eq, Field.ofVariable?_some_iff]

/-! ## Setting one field -/

theorem readNumber_ok {α : Type} {parse : List Char → Except Decimal.ParseError α} {key text : String} {n : α} :
    readNumber parse key text = .ok n ↔ parse text.toList = .ok n := by
  unfold readNumber
  cases parse text.toList <;> simp [Except.mapError]

/-- A field that is set holds what the text reads as, and the others what they held. -/
theorem reads_set {s t : Settings} {key text : String} {f : Field} (h : s.set key text f = .ok t) :
    f.Reads text (t.value f) ∧ ∀ g ≠ f, t.value g = s.value g := by
  cases f with
  | postgresDsn | serverAddr | logLevel =>
    cases h
    refine ⟨.text rfl, fun g hg => ?_⟩
    cases g <;> first | rfl | exact absurd rfl hg
  | poolMaxConnections | poolMinConnections =>
    obtain ⟨n, hn, rfl⟩ := Decimal.map_ok_iff.mp h
    have hread := Decimal.parseUInt32_ok_iff.mp (readNumber_ok.mp hn)
    refine ⟨.number rfl hread (Nat.le_sub_one_of_lt n.toNat_lt), fun g hg => ?_⟩
    cases g <;> first | rfl | exact absurd rfl hg
  | poolMaxLifetimeSecs | poolMaxIdleSecs | poolHealthCheckSecs | poolAcquireTimeoutSecs | requestTimeoutSecs
  | shutdownTimeoutSecs =>
    obtain ⟨n, hn, rfl⟩ := Decimal.map_ok_iff.mp h
    have hread := Decimal.parseUInt64_ok_iff.mp (readNumber_ok.mp hn)
    refine ⟨.number rfl hread (Nat.le_sub_one_of_lt n.toNat_lt), fun g hg => ?_⟩
    cases g <;> first | rfl | exact absurd rfl hg

theorem readNumber_map_ok {α : Type} {parse : List Char → Except Decimal.ParseError α} {text : String} {n : α}
    (h : parse text.toList = .ok n) (key : String) (put : α → Settings) :
    ∃ t, (readNumber parse key text).map put = .ok t :=
  ⟨put n, Decimal.map_ok_iff.mpr ⟨n, readNumber_ok.mpr h, rfl⟩⟩

theorem parseUInt32_of_unsigned {cs : List Char} {n : Nat} (h : Decimal.Unsigned cs n) (hmax : n ≤ UInt32.size - 1) :
    Decimal.parseUInt32 cs = .ok (UInt32.ofNat n) :=
  Decimal.map_ok_iff.mpr ⟨n, Decimal.parseNat_ok_iff.mpr ⟨h, hmax⟩, rfl⟩

theorem parseUInt64_of_unsigned {cs : List Char} {n : Nat} (h : Decimal.Unsigned cs n) (hmax : n ≤ UInt64.size - 1) :
    Decimal.parseUInt64 cs = .ok (UInt64.ofNat n) :=
  Decimal.map_ok_iff.mpr ⟨n, Decimal.parseNat_ok_iff.mpr ⟨h, hmax⟩, rfl⟩

/-- A field can be set to any text that reads as a value of its kind. -/
theorem set_of_reads {text : String} {f : Field} {v : Value} (h : f.Reads text v) (s : Settings) (key : String) :
    ∃ t, s.set key text f = .ok t := by
  cases h with
  | text h => cases f <;> first | exact ⟨_, rfl⟩ | cases h
  | number h hn hmax =>
    cases f with
    | postgresDsn | serverAddr | logLevel => cases h
    | poolMaxConnections | poolMinConnections =>
      cases h
      exact readNumber_map_ok (parseUInt32_of_unsigned hn hmax) key _
    | poolMaxLifetimeSecs | poolMaxIdleSecs | poolHealthCheckSecs | poolAcquireTimeoutSecs | requestTimeoutSecs
    | shutdownTimeoutSecs =>
      cases h
      exact readNumber_map_ok (parseUInt64_of_unsigned hn hmax) key _

/-! ## Reading the pairs -/

theorem loadFrom_cons (seen : List Field) (s : Settings) (x : String × String) (rest : List (String × String)) :
    loadFrom seen s (x :: rest) = match Field.ofVariable? x.1 with
      | none => loadFrom seen s rest
      | some fld =>
        if fld ∈ seen then .error (.duplicate fld)
        else (s.set x.1 x.2 fld).bind fun s => loadFrom (fld :: seen) s rest := by
  rw [loadFrom]
  cases Field.ofVariable? x.1 with
  | none => rfl
  | some fld => cases h : s.set x.1 x.2 fld <;> simp only [h] <;> rfl

/-- Two pairs that are not for the same field. -/
def Apart (x y : String × String) : Prop := ∀ f : Field, f.NamedBy x.1 → ¬ f.NamedBy y.1

instance : Std.Symm Apart := ⟨fun _ _ h f hy hx => h f hx hy⟩

/-- No field is named by two of the pairs. -/
def Once (pairs : List (String × String)) : Prop := pairs.Pairwise Apart

/-- What the pairs leave of a field that holds `before`: what the text of its variable reads
    as, or what it held if it has none. -/
def Gives (pairs : List (String × String)) (f : Field) (before after : Value) : Prop :=
  (∃ x ∈ pairs, f.NamedBy x.1 ∧ f.Reads x.2 after) ∨ (∀ x ∈ pairs, ¬ f.NamedBy x.1) ∧ after = before

/-- The settings `t` are what the pairs make of `s`, where the fields `seen` are set already. -/
structure Loaded (seen : List Field) (s : Settings) (pairs : List (String × String)) (t : Settings) : Prop where
  fresh : ∀ x ∈ pairs, ∀ f ∈ seen, ¬ f.NamedBy x.1
  once : Once pairs
  gives : ∀ f, Gives pairs f (s.value f) (t.value f)

variable {seen : List Field} {s t : Settings} {x : String × String} {rest pairs pairs' : List (String × String)} {f : Field}

theorem loaded_nil : Loaded seen s [] t ↔ t = s := by
  constructor
  · intro h
    refine ext_value fun f => ?_
    rcases h.gives f with ⟨x, hx, -⟩ | ⟨-, h⟩
    · cases hx
    · exact h
  · rintro rfl
    exact ⟨by simp, .nil, fun f => Or.inr ⟨by simp, rfl⟩⟩

theorem gives_cons_other {v w : Value} (hx : ¬ f.NamedBy x.1) : Gives (x :: rest) f v w ↔ Gives rest f v w := by
  simp [Gives, hx]

/-- The only pair for a field settles its value. -/
theorem gives_cons_named {v w : Value} (hx : f.NamedBy x.1) (hfresh : ∀ y ∈ rest, ¬ f.NamedBy y.1) :
    Gives (x :: rest) f v w ↔ f.Reads x.2 w := by
  constructor
  · rintro (⟨y, hy, hname, hreads⟩ | ⟨hnone, -⟩)
    · rcases List.mem_cons.mp hy with rfl | hy
      · exact hreads
      · exact absurd hname (hfresh y hy)
    · exact absurd hx (hnone x List.mem_cons_self)
  · intro hreads
    exact Or.inl ⟨x, List.mem_cons_self, hx, hreads⟩

theorem gives_fresh {v w : Value} (hfresh : ∀ y ∈ rest, ¬ f.NamedBy y.1) : Gives rest f v w ↔ w = v := by
  constructor
  · rintro (⟨y, hy, hname, -⟩ | ⟨-, hsame⟩)
    · exact absurd hname (hfresh y hy)
    · exact hsame
  · intro hsame
    exact Or.inr ⟨hfresh, hsame⟩

/-- A pair for no field changes nothing. -/
theorem loaded_cons_foreign (hx : ∀ f : Field, ¬ f.NamedBy x.1) : Loaded seen s (x :: rest) t ↔ Loaded seen s rest t := by
  have honce : Once (x :: rest) ↔ Once rest := by
    rw [Once, List.pairwise_cons]
    exact and_iff_right fun y _ f hf => absurd hf (hx f)
  constructor
  · intro h
    exact ⟨fun y hy => h.fresh y (List.mem_cons_of_mem _ hy), honce.mp h.once,
      fun f => (gives_cons_other (hx f)).mp (h.gives f)⟩
  · intro h
    exact ⟨List.forall_mem_cons.mpr ⟨fun f _ => hx f, h.fresh⟩, honce.mpr h.once,
      fun f => (gives_cons_other (hx f)).mpr (h.gives f)⟩

/-- A pair for a field sets it, if its text can be read; it is then seen. -/
theorem loaded_cons_set {s' : Settings} (hx : f.NamedBy x.1) (hseen : f ∉ seen) (hset : s.set x.1 x.2 f = .ok s') :
    Loaded seen s (x :: rest) t ↔ Loaded (f :: seen) s' rest t := by
  obtain ⟨hreads, hrest⟩ := reads_set hset
  have hother {g : Field} (hg : g ≠ f) : ¬ g.NamedBy x.1 := fun h => hg (h.unique hx)
  constructor
  · intro h
    obtain ⟨hhead, htail⟩ := List.pairwise_cons.mp h.once
    have hfresh : ∀ y ∈ rest, ¬ f.NamedBy y.1 := fun y hy => hhead y hy f hx
    refine ⟨fun y hy => List.forall_mem_cons.mpr ⟨hfresh y hy, h.fresh y (List.mem_cons_of_mem _ hy)⟩, htail, fun g => ?_⟩
    by_cases hg : g = f
    · subst hg
      exact (gives_fresh hfresh).mpr (((gives_cons_named hx hfresh).mp (h.gives g)).unique hreads)
    · rw [hrest g hg]
      exact (gives_cons_other (hother hg)).mp (h.gives g)
  · intro h
    have hfresh : ∀ y ∈ rest, ¬ f.NamedBy y.1 := fun y hy => h.fresh y hy f List.mem_cons_self
    refine ⟨?_, ?_, fun g => ?_⟩
    · refine List.forall_mem_cons.mpr ⟨fun g hg => hother fun he => hseen (he ▸ hg), fun y hy g hg => ?_⟩
      exact h.fresh y hy g (List.mem_cons_of_mem _ hg)
    · refine List.pairwise_cons.mpr ⟨fun y hy g hg => ?_, h.once⟩
      rw [hg.unique hx]
      exact hfresh y hy
    · by_cases hg : g = f
      · subst hg
        have hsame := (gives_fresh hfresh).mp (h.gives g)
        exact (gives_cons_named hx hfresh).mpr (hsame ▸ hreads)
      · rw [← hrest g hg]
        exact (gives_cons_other (hother hg)).mpr (h.gives g)

/-- Reading the pairs one by one finds the settings that they stand for together. -/
theorem loadFrom_ok_iff : loadFrom seen s pairs = .ok t ↔ Loaded seen s pairs t := by
  induction pairs generalizing seen s with
  | nil =>
    rw [loaded_nil, loadFrom, Except.ok.injEq]
    exact eq_comm
  | cons x rest ih =>
    rw [loadFrom_cons]
    cases hkey : Field.ofVariable? x.1 with
    | none => rw [loaded_cons_foreign (Field.ofVariable?_none_iff.mp hkey)]; exact ih
    | some f =>
      have hname := Field.ofVariable?_some_iff.mp hkey
      by_cases hseen : f ∈ seen
      · simp only [hseen, if_true]
        refine ⟨fun h => (nomatch h), fun h => ?_⟩
        exact absurd hname (h.fresh x List.mem_cons_self f hseen)
      · simp only [hseen, if_false]
        cases hset : s.set x.1 x.2 f with
        | ok s' => rw [loaded_cons_set hname hseen hset]; exact ih
        | error e =>
          refine ⟨fun h => (nomatch h), fun h => ?_⟩
          -- the field has some value, and the only text that can have given it is refused
          rcases h.gives f with ⟨y, hy, hy'⟩ | ⟨hnone, -⟩
          · rcases List.mem_cons.mp hy with rfl | hy
            · obtain ⟨s', hs'⟩ := set_of_reads hy'.2 s y.1
              rw [hset] at hs'
              cases hs'
            · exact absurd hy'.1 ((List.pairwise_cons.mp h.once).1 y hy f hname)
          · exact absurd hname (hnone x List.mem_cons_self)

/-- Every text for a field reads as some value of it. -/
def Readable (pairs : List (String × String)) : Prop :=
  ∀ x ∈ pairs, ∀ f : Field, f.NamedBy x.1 → ∃ v, f.Reads x.2 v

theorem loadFrom_ok_of_readable (hfresh : ∀ x ∈ pairs, ∀ f ∈ seen, ¬ f.NamedBy x.1) (honce : Once pairs)
    (hread : Readable pairs) : ∃ t, loadFrom seen s pairs = .ok t := by
  induction pairs generalizing seen s with
  | nil => exact ⟨s, rfl⟩
  | cons x rest ih =>
    obtain ⟨hx, hrest⟩ := List.forall_mem_cons.mp hfresh
    obtain ⟨hhead, htail⟩ := List.pairwise_cons.mp honce
    obtain ⟨hxread, hrestread⟩ := List.forall_mem_cons.mp hread
    rw [loadFrom_cons]
    cases hkey : Field.ofVariable? x.1 with
    | none => exact ih hrest htail hrestread
    | some f =>
      have hname := Field.ofVariable?_some_iff.mp hkey
      have hseen : f ∉ seen := fun h => hx f h hname
      obtain ⟨v, hv⟩ := hxread f hname
      obtain ⟨s', hs'⟩ := set_of_reads hv s x.1
      simp only [hseen, if_false, hs']
      refine ih (fun y hy => ?_) htail hrestread
      exact List.forall_mem_cons.mpr ⟨hhead y hy f hname, hrest y hy⟩

theorem readable_of_loaded (h : Loaded seen s pairs t) : Readable pairs := by
  intro x hx f hname
  rcases h.gives f with ⟨y, hy, hyname, hyread⟩ | ⟨hnone, -⟩
  · have hsame : x = y := by
      by_contra hne
      exact h.once.forall hx hy hne f hname hyname
    subst hsame
    exact ⟨_, hyread⟩
  · exact absurd hname (hnone x hx)

/-! ## In any order -/

theorem Once.perm (h : pairs.Perm pairs') : Once pairs ↔ Once pairs' :=
  h.pairwise_iff fun hxy => Std.Symm.symm _ _ hxy

theorem Gives.perm (h : pairs.Perm pairs') (f : Field) (v w : Value) : Gives pairs f v w ↔ Gives pairs' f v w := by
  simp [Gives, h.mem_iff]

theorem Loaded.perm (h : pairs.Perm pairs') : Loaded seen s pairs t ↔ Loaded seen s pairs' t := by
  constructor
  · intro hl
    refine ⟨fun x hx => hl.fresh x (h.mem_iff.mpr hx), (Once.perm h).mp hl.once, fun f => ?_⟩
    exact (Gives.perm h f _ _).mp (hl.gives f)
  · intro hl
    refine ⟨fun x hx => hl.fresh x (h.mem_iff.mp hx), (Once.perm h).mpr hl.once, fun f => ?_⟩
    exact (Gives.perm h f _ _).mpr (hl.gives f)

theorem ofPairs_ok_iff : ofPairs pairs = .ok s ↔ Loaded [] {} pairs s := by
  rw [← loadFrom_ok_iff, ofPairs]
  cases loadFrom [] {} pairs <;> simp [Except.mapError]

theorem ofPairs_perm (h : pairs.Perm pairs') : ofPairs pairs = .ok s ↔ ofPairs pairs' = .ok s := by
  rw [ofPairs_ok_iff, ofPairs_ok_iff, Loaded.perm h]

theorem loadFrom_foreign (hx : ∀ f : Field, ¬ f.NamedBy x.1) (before after : List (String × String)) :
    loadFrom seen s (before ++ x :: after) = loadFrom seen s (before ++ after) := by
  induction before generalizing seen s with
  | nil => rw [List.nil_append, loadFrom_cons, Field.ofVariable?_none_iff.mpr hx, List.nil_append]
  | cons y before ih =>
    rw [List.cons_append, List.cons_append, loadFrom_cons, loadFrom_cons]
    cases Field.ofVariable? y.1 with
    | none => exact ih
    | some f =>
      simp only
      split
      · rfl
      · cases s.set y.1 y.2 f with
        | error e => rfl
        | ok s' => exact ih

/-- Only a number can be given in a text that is none. -/
theorem readable_iff : Readable pairs ↔ ∀ x ∈ pairs, ∀ f : Field, f.NamedBy x.1 → ∀ max, f.bound? = some max →
    ∃ n ≤ max, Decimal.Unsigned x.2.toList n := by
  constructor
  · intro h x hx f hname max hmax
    obtain ⟨v, hv⟩ := h x hx f hname
    cases hv with
    | text hnone => rw [hnone] at hmax; cases hmax
    | @number _ n hsome hn hle =>
      rw [hsome] at hmax
      cases hmax
      exact ⟨n, hle, hn⟩
  · intro h x hx f hname
    cases hbound : f.bound? with
    | none => exact ⟨_, .text hbound⟩
    | some max =>
      obtain ⟨n, hle, hn⟩ := h x hx f hname max hbound
      exact ⟨_, .number hbound hn hle⟩

/-- What a list of variables comes to, whatever their order.

    Settings are read from it exactly if no two of its keys, in small letters, are the name
    of one and the same field, and each text for a field that is a number is a number
    within the field's bound. A field then holds what the text for it reads as, or its
    default if there is none. A variable for no field might as well not be there. In
    another order the same variables give the same settings, or none in both. -/
theorem pairs_any_order (pairs : List (String × String)) :
    ((∃ s, ofPairs pairs = .ok s) ↔ Once pairs ∧ ∀ x ∈ pairs, ∀ f : Field, f.NamedBy x.1 →
      ∀ max, f.bound? = some max → ∃ n ≤ max, Decimal.Unsigned x.2.toList n) ∧
    (∀ s, ofPairs pairs = .ok s → ∀ f : Field,
      (∃ x ∈ pairs, f.NamedBy x.1 ∧ f.Reads x.2 (s.value f)) ∨
        (∀ x ∈ pairs, ¬ f.NamedBy x.1) ∧ s.value f = ({} : Settings).value f) ∧
    (∀ before x after, pairs = before ++ x :: after → (∀ f : Field, ¬ f.NamedBy x.1) →
      ofPairs (before ++ after) = ofPairs pairs) ∧
    ∀ pairs', pairs.Perm pairs' →
      (∃ s, ofPairs pairs = .ok s ∧ ofPairs pairs' = .ok s) ∨
        ∃ e e', ofPairs pairs = .error e ∧ ofPairs pairs' = .error e' := by
  refine ⟨?_, fun s hs f => (ofPairs_ok_iff.mp hs).gives f, ?_, fun pairs' hperm => ?_⟩
  · rw [← readable_iff]
    constructor
    · rintro ⟨s, hs⟩
      have hloaded := ofPairs_ok_iff.mp hs
      exact ⟨hloaded.once, readable_of_loaded hloaded⟩
    · rintro ⟨honce, hread⟩
      obtain ⟨s, hs⟩ := @loadFrom_ok_of_readable [] {} _ (by simp) honce hread
      exact ⟨s, ofPairs_ok_iff.mpr (loadFrom_ok_iff.mp hs)⟩
  · rintro before x after rfl hx
    rw [ofPairs, ofPairs, loadFrom_foreign hx]
  · cases h : ofPairs pairs with
    | ok s => exact Or.inl ⟨s, rfl, (ofPairs_perm hperm).mp h⟩
    | error e =>
      cases h' : ofPairs pairs' with
      | ok s =>
        rw [(ofPairs_perm hperm).mpr h'] at h
        cases h
      | error e' => exact Or.inr ⟨e, e', rfl, rfl⟩

/-- Variables as an environment may have them, one of them for no field. -/
def threeVariables : List (String × String) :=
  [("postgres_DSN", "postgres://app@localhost/numbers"), ("POOL_MAX_CONNECTIONS", "+007"), ("HOME", "/root")]

theorem three_variables_reversed : ∃ s, ofPairs threeVariables = .ok s ∧ ofPairs threeVariables.reverse = .ok s ∧
    s.value .poolMaxConnections = .number 7 := by
  have hok : ofPairs threeVariables =
      .ok { postgresDsn := some "postgres://app@localhost/numbers", poolMaxConnections := 7 } := rfl
  rcases (pairs_any_order threeVariables).2.2.2 _ threeVariables.reverse_perm.symm with ⟨s, hs, hs'⟩ | ⟨e, _, he, -⟩
  · refine ⟨s, hs, hs', ?_⟩
    rw [hok] at hs
    cases hs
    rfl
  · rw [hok] at he
    cases he

end NumberRegistry.Settings
