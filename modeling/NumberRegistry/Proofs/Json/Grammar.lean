/-
  NumberRegistry.Proofs.Json.Grammar — which texts are JSON, and what they say.

  The forms of values are stated as a grammar, without a reader (`Form`): an array or an
  object is a pair of brackets around its items or members, with commas between them and
  white space around every value. The readers take just these forms off the front of a text
  (`sound`, `Form.complete`), so a whole text is read as a value exactly if it is a form of
  it with white space around (`parse?_eq_some_iff`).

  The reader's fuel bounds the length of the text it is given to read.
-/
import NumberRegistry.Proofs.Json.Literal

namespace NumberRegistry.Json

open Text

variable {s rest : List Char}

/-! ## Values -/

/-- White space. -/
def Space (b : List Char) : Prop := ∀ c ∈ b, isSpace c = true

theorem exists_space (s : List Char) : ∃ b, Space b ∧ s = b ++ skip s :=
  ⟨s.takeWhile isSpace, List.all_eq_true.mp List.all_takeWhile, List.takeWhile_append_dropWhile.symm⟩

theorem skip_append {b : List Char} (hb : Space b) {c : Char} (hc : isSpace c = false) (cs : List Char) :
    skip (b ++ c :: cs) = c :: cs :=
  dropWhile_exact hb (by rintro d ⟨⟩; exact hc)

/-- A value, or what is between the brackets of an array or object that is not empty. -/
inductive Phrase where
  | value (v : Value)
  | items (vs : List Value)
  | members (ms : List (Option String × Value))

inductive Form : List Char → Phrase → Prop
  | null : Form "null".toList (.value .null)
  | bool (b : Bool) : Form (if b then "true" else "false").toList (.value (.bool b))
  | number {cs : List Char} (h : NumberForm cs) : Form cs (.value (.number (String.ofList cs)))
  | string {cs : List Char} {t : Option String} (h : StringForm cs t) : Form ('"' :: (cs ++ ['"'])) (.value (.string t))
  | emptyArray {b : List Char} (hb : Space b) : Form ('[' :: (b ++ [']'])) (.value (.array []))
  | array {cs : List Char} {vs : List Value} (h : Form cs (.items vs)) : Form ('[' :: (cs ++ [']'])) (.value (.array vs))
  | emptyObject {b : List Char} (hb : Space b) : Form ('\x7b' :: (b ++ ['\x7d'])) (.value (.object []))
  | object {cs : List Char} {ms : List (Option String × Value)} (h : Form cs (.members ms)) :
      Form ('\x7b' :: (cs ++ ['\x7d'])) (.value (.object ms))
  | item {b₁ cs b₂ : List Char} {v : Value} (hb₁ : Space b₁) (h : Form cs (.value v)) (hb₂ : Space b₂) :
      Form (b₁ ++ (cs ++ b₂)) (.items [v])
  | items {b₁ cs b₂ tail : List Char} {v : Value} {vs : List Value} (hb₁ : Space b₁) (h : Form cs (.value v))
      (hb₂ : Space b₂) (htail : Form tail (.items vs)) : Form (b₁ ++ (cs ++ (b₂ ++ ',' :: tail))) (.items (v :: vs))
  | member {b₁ name b₂ b₃ cs b₄ : List Char} {t : Option String} {v : Value} (hb₁ : Space b₁) (hname : StringForm name t)
      (hb₂ : Space b₂) (hb₃ : Space b₃) (h : Form cs (.value v)) (hb₄ : Space b₄) :
      Form (b₁ ++ '"' :: (name ++ '"' :: (b₂ ++ ':' :: (b₃ ++ (cs ++ b₄))))) (.members [(t, v)])
  | members {b₁ name b₂ b₃ cs b₄ tail : List Char} {t : Option String} {v : Value} {ms : List (Option String × Value)}
      (hb₁ : Space b₁) (hname : StringForm name t) (hb₂ : Space b₂) (hb₃ : Space b₃) (h : Form cs (.value v))
      (hb₄ : Space b₄) (htail : Form tail (.members ms)) :
      Form (b₁ ++ '"' :: (name ++ '"' :: (b₂ ++ ':' :: (b₃ ++ (cs ++ (b₄ ++ ',' :: tail)))))) (.members ((t, v) :: ms))

/-- What a reader takes is a form of what it gives. -/
structure Sound (fuel : Nat) : Prop where
  value : ∀ {s rest v}, readValue fuel s = some (v, rest) → ∃ b cs, Space b ∧ Form cs (.value v) ∧ s = b ++ (cs ++ rest)
  items : ∀ {s rest vs}, readItems fuel s = some (vs, rest) → ∃ cs, Form cs (.items vs) ∧ s = cs ++ ']' :: rest
  members : ∀ {s rest ms}, readMembers fuel s = some (ms, rest) → ∃ cs, Form cs (.members ms) ∧ s = cs ++ '\x7d' :: rest

theorem readValue_sound {fuel : Nat} (ih : Sound fuel) {v : Value} (h : readValue (fuel + 1) s = some (v, rest)) :
    ∃ b cs, Space b ∧ Form cs (.value v) ∧ s = b ++ (cs ++ rest) := by
  obtain ⟨b, hb, hs⟩ := exists_space s
  refine ⟨b, ?_⟩
  suffices hform : ∃ cs, Form cs (.value v) ∧ skip s = cs ++ rest by
    obtain ⟨cs, hcs, heq⟩ := hform
    exact ⟨cs, hb, hcs, heq ▸ hs⟩
  rw [readValue] at h
  split at h
  · rename_i heq
    cases h
    exact ⟨_, .null, heq⟩
  · rename_i heq
    cases h
    exact ⟨_, .bool true, heq⟩
  · rename_i heq
    cases h
    exact ⟨_, .bool false, heq⟩
  · rename_i heq
    obtain ⟨⟨t, rest'⟩, hread, hpair⟩ := Option.map_eq_some_iff.mp h
    cases hpair
    obtain ⟨cs, hcs, rfl⟩ := readString_eq_some_iff.mp hread
    exact ⟨_, .string hcs, by rw [heq]; simp⟩
  · rename_i cs heq
    split at h
    · rename_i hclose
      cases h
      obtain ⟨b', hb', hcs⟩ := exists_space cs
      exact ⟨_, .emptyArray hb', by rw [heq, hcs, hclose]; simp⟩
    · obtain ⟨⟨vs, rest'⟩, hread, hpair⟩ := Option.map_eq_some_iff.mp h
      cases hpair
      obtain ⟨cs', hcs', rfl⟩ := ih.items hread
      exact ⟨_, .array hcs', by rw [heq]; simp⟩
  · rename_i cs heq
    split at h
    · rename_i hclose
      cases h
      obtain ⟨b', hb', hcs⟩ := exists_space cs
      exact ⟨_, .emptyObject hb', by rw [heq, hcs, hclose]; simp⟩
    · obtain ⟨⟨vs, rest'⟩, hread, hpair⟩ := Option.map_eq_some_iff.mp h
      cases hpair
      obtain ⟨cs', hcs', rfl⟩ := ih.members hread
      exact ⟨_, .object hcs', by rw [heq]; simp⟩
  · obtain ⟨⟨ds, rest'⟩, hread, hpair⟩ := Option.map_eq_some_iff.mp h
    cases hpair
    obtain ⟨hds, heq⟩ := readNumber_sound hread
    exact ⟨_, .number hds, heq⟩

theorem readItems_sound {fuel : Nat} (ih : Sound fuel) {vs : List Value} (h : readItems (fuel + 1) s = some (vs, rest)) :
    ∃ cs, Form cs (.items vs) ∧ s = cs ++ ']' :: rest := by
  rw [readItems] at h
  split at h
  · cases h
  · rename_i v rest₁ hread
    obtain ⟨b₁, cs, hb₁, hcs, rfl⟩ := ih.value hread
    obtain ⟨b₂, hb₂, hrest⟩ := exists_space rest₁
    split at h
    · rename_i heq
      cases h
      exact ⟨_, .item hb₁ hcs hb₂, by rw [hrest, heq]; simp⟩
    · rename_i heq
      obtain ⟨⟨vs', rest'⟩, hmore, hpair⟩ := Option.map_eq_some_iff.mp h
      cases hpair
      obtain ⟨tail, htail, rfl⟩ := ih.items hmore
      exact ⟨_, .items hb₁ hcs hb₂ htail, by rw [hrest, heq]; simp⟩
    · cases h

theorem readMembers_sound {fuel : Nat} (ih : Sound fuel) {ms : List (Option String × Value)}
    (h : readMembers (fuel + 1) s = some (ms, rest)) : ∃ cs, Form cs (.members ms) ∧ s = cs ++ '\x7d' :: rest := by
  rw [readMembers] at h
  obtain ⟨b₁, hb₁, hs⟩ := exists_space s
  split at h
  · rename_i hquote
    split at h
    · cases h
    · rename_i t rest₁ hstring
      obtain ⟨name, hname, rfl⟩ := readString_eq_some_iff.mp hstring
      obtain ⟨b₂, hb₂, hrest₁⟩ := exists_space rest₁
      split at h
      · rename_i rest₂ hcolon
        split at h
        · cases h
        · rename_i v rest₃ hread
          obtain ⟨b₃, cs, hb₃, hcs, rfl⟩ := ih.value hread
          obtain ⟨b₄, hb₄, hrest₃⟩ := exists_space rest₃
          split at h
          · rename_i heq
            cases h
            exact ⟨_, .member hb₁ hname hb₂ hb₃ hcs hb₄, by rw [hs, hquote, hrest₁, hcolon, hrest₃, heq]; simp⟩
          · rename_i heq
            obtain ⟨⟨ms', rest'⟩, hmore, hpair⟩ := Option.map_eq_some_iff.mp h
            cases hpair
            obtain ⟨tail, htail, rfl⟩ := ih.members hmore
            exact ⟨_, .members hb₁ hname hb₂ hb₃ hcs hb₄ htail, by rw [hs, hquote, hrest₁, hcolon, hrest₃, heq]; simp⟩
          · cases h
      · cases h
  · cases h

theorem sound (fuel : Nat) : Sound fuel := by
  induction fuel with
  | zero =>
    refine ⟨?_, ?_, ?_⟩
    · intro s rest v h
      cases h
    · intro s rest vs h
      cases h
    · intro s rest ms h
      cases h
  | succ fuel ih => exact ⟨readValue_sound ih, readItems_sound ih, readMembers_sound ih⟩

/-- What may be behind a value. -/
def Follows (rest : List Char) : Prop := ∀ c ∈ rest.head?, isSpace c = true ∨ c = ',' ∨ c = ']' ∨ c = '\x7d'

theorem follows_cons {c : Char} (h : isSpace c = true ∨ c = ',' ∨ c = ']' ∨ c = '\x7d') (rest : List Char) :
    Follows (c :: rest) := by
  rintro d ⟨⟩
  exact h

theorem follows_space {b : List Char} (hb : Space b) (hrest : Follows rest) : Follows (b ++ rest) := by
  cases b with
  | nil => exact hrest
  | cons c b => exact follows_cons (Or.inl (hb c List.mem_cons_self)) _

theorem Follows.endsNumber (h : Follows rest) : EndsNumber rest := by
  intro c hc
  rcases h c hc with hspace | rfl | rfl | rfl
  · simp only [isSpace, Bool.or_eq_true, beq_iff_eq] at hspace
    rcases hspace with ((rfl | rfl) | rfl) | rfl <;> decide
  all_goals decide

/-- A number begins like no other value. -/
theorem NumberForm.head {cs : List Char} (h : NumberForm cs) :
    ∃ c tail, cs = c :: tail ∧ (c = '-' ∨ c.isDigit = true) := by
  obtain @⟨sign, whole, fraction, exponent, hsign, hwhole, -, -⟩ := h
  obtain ⟨d, tail, rfl, hd⟩ := hwhole.head
  rcases hsign with rfl | rfl
  · exact ⟨d, _, rfl, Or.inr hd⟩
  · exact ⟨'-', _, rfl, Or.inl rfl⟩

/-- A value begins with neither white space nor a closing bracket. -/
theorem Form.head {cs : List Char} {v : Value} (h : Form cs (.value v)) :
    ∃ c tail, cs = c :: tail ∧ isSpace c = false ∧ c ≠ ']' := by
  cases h with
  | null => exact ⟨_, _, rfl, by decide, by decide⟩
  | bool b => cases b <;> exact ⟨_, _, rfl, by decide, by decide⟩
  | number h =>
    obtain ⟨c, tail, rfl, rfl | hc⟩ := h.head
    · exact ⟨_, _, rfl, by decide, by decide⟩
    · refine ⟨c, tail, rfl, ?_, ?_⟩
      · rw [← Bool.not_eq_true]
        intro hspace
        simp only [isSpace, Bool.or_eq_true, beq_iff_eq] at hspace
        rcases hspace with ((rfl | rfl) | rfl) | rfl <;> exact absurd hc (by decide)
      · rintro rfl
        exact absurd hc (by decide)
  | string => exact ⟨_, _, rfl, by decide, by decide⟩
  | emptyArray => exact ⟨_, _, rfl, by decide, by decide⟩
  | array => exact ⟨_, _, rfl, by decide, by decide⟩
  | emptyObject => exact ⟨_, _, rfl, by decide, by decide⟩
  | object => exact ⟨_, _, rfl, by decide, by decide⟩

/-- The first item of an array does not close it. -/
theorem Form.skip_items {cs : List Char} {vs : List Value} (h : Form cs (.items vs)) (rest : List Char) :
    ∃ c tail, skip (cs ++ rest) = c :: tail ∧ c ≠ ']' := by
  cases h with
  | @item _ _ b₂ _ hb₁ h hb₂ =>
    obtain ⟨c, tail, rfl, hspace, hc⟩ := h.head
    refine ⟨c, tail ++ (b₂ ++ rest), ?_, hc⟩
    simpa using skip_append hb₁ hspace (tail ++ (b₂ ++ rest))
  | @items _ _ b₂ more _ _ hb₁ h hb₂ =>
    obtain ⟨c, tail, rfl, hspace, hc⟩ := h.head
    refine ⟨c, tail ++ (b₂ ++ ',' :: (more ++ rest)), ?_, hc⟩
    simpa using skip_append hb₁ hspace (tail ++ (b₂ ++ ',' :: (more ++ rest)))

theorem Form.skip_members {cs : List Char} {ms : List (Option String × Value)} (h : Form cs (.members ms))
    (rest : List Char) : ∃ tail, skip (cs ++ rest) = '"' :: tail := by
  cases h with
  | member hb₁ => exact ⟨_, by rw [List.append_assoc, List.cons_append, skip_append hb₁ (by decide)]⟩
  | members hb₁ => exact ⟨_, by rw [List.append_assoc, List.cons_append, skip_append hb₁ (by decide)]⟩

theorem skip_cons {c : Char} (h : isSpace c = false) (cs : List Char) : skip (c :: cs) = c :: cs := by
  simp [skip, h]

/-- A form is read as what it is a form of, with anything behind it that may be there. -/
def Phrase.ReadFrom (cs : List Char) : Phrase → Prop
  | .value v => ∀ (fuel : Nat) {b rest : List Char}, 2 * cs.length ≤ fuel → Space b → Follows rest →
      readValue fuel (b ++ (cs ++ rest)) = some (v, rest)
  | .items vs => ∀ (fuel : Nat) (rest : List Char), 2 * cs.length < fuel → readItems fuel (cs ++ ']' :: rest) = some (vs, rest)
  | .members ms => ∀ (fuel : Nat) (rest : List Char), 2 * cs.length < fuel →
      readMembers fuel (cs ++ '\x7d' :: rest) = some (ms, rest)

theorem readValue_skip {b : List Char} (hb : Space b) {c : Char} (hc : isSpace c = false) (cs : List Char) :
    ∀ fuel : Nat, readValue fuel (b ++ c :: cs) = readValue fuel (c :: cs)
  | 0 => rfl
  | fuel + 1 => by rw [readValue, readValue, skip_append hb hc, skip_cons hc]

theorem complete_null : (Phrase.value .null).ReadFrom "null".toList := by
  intro fuel b rest hfuel hb _
  have hlength : "null".toList.length = 4 := rfl
  obtain ⟨fuel, rfl⟩ : ∃ k, fuel = k + 1 := ⟨fuel - 1, by omega⟩
  show readValue (fuel + 1) (b ++ 'n' :: 'u' :: 'l' :: 'l' :: rest) = _
  rw [readValue_skip hb (by decide)]
  rfl

theorem complete_bool (v : Bool) : (Phrase.value (.bool v)).ReadFrom (if v then "true" else "false").toList := by
  intro fuel b rest hfuel hb _
  have hlength : 4 ≤ (if v then "true" else "false").toList.length := by cases v <;> decide
  obtain ⟨fuel, rfl⟩ : ∃ k, fuel = k + 1 := ⟨fuel - 1, by omega⟩
  cases v with
  | true =>
    show readValue (fuel + 1) (b ++ 't' :: 'r' :: 'u' :: 'e' :: rest) = _
    rw [readValue_skip hb (by decide)]
    rfl
  | false =>
    show readValue (fuel + 1) (b ++ 'f' :: 'a' :: 'l' :: 's' :: 'e' :: rest) = _
    rw [readValue_skip hb (by decide)]
    rfl

theorem complete_number {cs : List Char} (h : NumberForm cs) :
    (Phrase.value (.number (String.ofList cs))).ReadFrom cs := by
  intro fuel b rest hfuel hb hrest
  have hread := readNumber_complete h hrest.endsNumber
  obtain ⟨c, tail, rfl, hc⟩ := h.head
  rw [List.length_cons] at hfuel
  obtain ⟨fuel, rfl⟩ : ∃ k, fuel = k + 1 := ⟨fuel - 1, by omega⟩
  have hspace : isSpace c = false := by
    obtain ⟨d, tail', heq, hspace, -⟩ := (Form.number h).head
    obtain ⟨rfl, -⟩ := List.cons.inj heq
    exact hspace
  have hother : ∀ d ∈ ['n', 't', 'f', '"', '[', '\x7b'], c ≠ d := by
    rintro d hd rfl
    rcases hc with rfl | hc
    · exact absurd hd (by decide)
    · simp only [List.mem_cons, List.not_mem_nil, or_false] at hd
      rcases hd with rfl | rfl | rfl | rfl | rfl | rfl <;> exact absurd hc (by decide)
  rw [List.cons_append, readValue_skip hb hspace, readValue, skip_cons hspace]
  split
  case h_7 => rw [← List.cons_append, hread]; rfl
  all_goals rename_i heq; exact absurd (List.cons.inj heq).1 (hother _ (by decide))

theorem complete_string {cs : List Char} {t : Option String} (h : StringForm cs t) :
    (Phrase.value (.string t)).ReadFrom ('"' :: (cs ++ ['"'])) := by
  intro fuel b rest hfuel hb _
  rw [List.length_cons] at hfuel
  obtain ⟨fuel, rfl⟩ : ∃ k, fuel = k + 1 := ⟨fuel - 1, by omega⟩
  have hread : readString (cs ++ '"' :: rest) = some (t, rest) := readString_eq_some_iff.mpr ⟨cs, h, rfl⟩
  rw [List.cons_append, readValue_skip hb (by decide), List.append_assoc]
  show (readString (cs ++ '"' :: rest)).map _ = _
  rw [hread]
  rfl

theorem complete_emptyArray {b : List Char} (h : Space b) :
    (Phrase.value (.array [])).ReadFrom ('[' :: (b ++ [']'])) := by
  intro fuel b' rest hfuel hb' _
  rw [List.length_cons] at hfuel
  obtain ⟨fuel, rfl⟩ : ∃ k, fuel = k + 1 := ⟨fuel - 1, by omega⟩
  have hclose : skip (b ++ ']' :: rest) = ']' :: rest := skip_append h (by decide) rest
  rw [List.cons_append, readValue_skip hb' (by decide)]
  simp [readValue, skip_cons, isSpace, hclose]

theorem complete_array {cs : List Char} {vs : List Value} (h : Form cs (.items vs)) (ih : (Phrase.items vs).ReadFrom cs) :
    (Phrase.value (.array vs)).ReadFrom ('[' :: (cs ++ [']'])) := by
  intro fuel b rest hfuel hb _
  rw [List.length_cons, List.length_append] at hfuel
  obtain ⟨fuel, rfl⟩ : ∃ k, fuel = k + 1 := ⟨fuel - 1, by omega⟩
  have hread : readItems fuel (cs ++ ']' :: rest) = some (vs, rest) := ih fuel rest (by omega)
  obtain ⟨c, tail, hskip, hc⟩ := h.skip_items (']' :: rest)
  rw [List.cons_append, readValue_skip hb (by decide), List.append_assoc, List.singleton_append, readValue,
    skip_cons (by decide)]
  simp only [hskip]
  split
  · rename_i heq
    exact absurd (List.cons.inj heq).1 hc
  · rw [hread]
    rfl

theorem complete_emptyObject {b : List Char} (h : Space b) :
    (Phrase.value (.object [])).ReadFrom ('\x7b' :: (b ++ ['\x7d'])) := by
  intro fuel b' rest hfuel hb' _
  rw [List.length_cons] at hfuel
  obtain ⟨fuel, rfl⟩ : ∃ k, fuel = k + 1 := ⟨fuel - 1, by omega⟩
  have hclose : skip (b ++ '\x7d' :: rest) = '\x7d' :: rest := skip_append h (by decide) rest
  rw [List.cons_append, readValue_skip hb' (by decide)]
  simp [readValue, skip_cons, isSpace, hclose]

theorem complete_object {cs : List Char} {ms : List (Option String × Value)} (h : Form cs (.members ms))
    (ih : (Phrase.members ms).ReadFrom cs) : (Phrase.value (.object ms)).ReadFrom ('\x7b' :: (cs ++ ['\x7d'])) := by
  intro fuel b rest hfuel hb _
  rw [List.length_cons, List.length_append] at hfuel
  obtain ⟨fuel, rfl⟩ : ∃ k, fuel = k + 1 := ⟨fuel - 1, by omega⟩
  have hread : readMembers fuel (cs ++ '\x7d' :: rest) = some (ms, rest) := ih fuel rest (by omega)
  obtain ⟨tail, hskip⟩ := h.skip_members ('\x7d' :: rest)
  rw [List.cons_append, readValue_skip hb (by decide)]
  simp [readValue, skip_cons, isSpace, hskip, hread]

/-- A value inside an array or object, with white space around it. -/
theorem readValue_inside {cs b₁ b₂ : List Char} {v : Value} (ih : (Phrase.value v).ReadFrom cs) (fuel : Nat)
    (hfuel : 2 * cs.length ≤ fuel) (hb₁ : Space b₁) (hb₂ : Space b₂) {c : Char} (hc : c = ',' ∨ c = ']' ∨ c = '\x7d')
    (rest : List Char) : readValue fuel (b₁ ++ (cs ++ (b₂ ++ c :: rest))) = some (v, b₂ ++ c :: rest) :=
  ih fuel hfuel hb₁ (follows_space hb₂ (follows_cons (Or.inr hc) rest))

theorem Form.complete {cs : List Char} {p : Phrase} (h : Form cs p) : p.ReadFrom cs := by
  induction h with
  | null => exact complete_null
  | bool v => exact complete_bool v
  | number h => exact complete_number h
  | string h => exact complete_string h
  | emptyArray hb => exact complete_emptyArray hb
  | array h ih => exact complete_array h ih
  | emptyObject hb => exact complete_emptyObject hb
  | object h ih => exact complete_object h ih
  | @item b₁ cs b₂ v hb₁ h hb₂ ih =>
    intro fuel rest hfuel
    simp only [List.length_append] at hfuel
    obtain ⟨fuel, rfl⟩ : ∃ k, fuel = k + 1 := ⟨fuel - 1, by omega⟩
    have hread := readValue_inside ih fuel (by omega) hb₁ hb₂ (Or.inr (Or.inl rfl)) rest
    have hclose := skip_append hb₂ (c := ']') (by decide) rest
    rw [List.append_assoc, List.append_assoc, readItems, hread]
    simp only [hclose]
  | @items b₁ cs b₂ tail v vs hb₁ h hb₂ htail ih ihtail =>
    intro fuel rest hfuel
    simp only [List.length_append, List.length_cons] at hfuel
    obtain ⟨fuel, rfl⟩ : ∃ k, fuel = k + 1 := ⟨fuel - 1, by omega⟩
    have hread := readValue_inside ih fuel (by omega) hb₁ hb₂ (Or.inl rfl) (tail ++ ']' :: rest)
    have hcomma := skip_append hb₂ (c := ',') (by decide) (tail ++ ']' :: rest)
    have hmore : readItems fuel (tail ++ ']' :: rest) = some (vs, rest) := ihtail fuel rest (by omega)
    rw [List.append_assoc, List.append_assoc, List.append_assoc, List.cons_append, readItems, hread]
    simp only [hcomma, hmore]
    rfl
  | @member b₁ name b₂ b₃ cs b₄ t v hb₁ hname hb₂ hb₃ h hb₄ ih =>
    intro fuel rest hfuel
    simp only [List.length_append, List.length_cons] at hfuel
    obtain ⟨fuel, rfl⟩ : ∃ k, fuel = k + 1 := ⟨fuel - 1, by omega⟩
    have hread := readValue_inside ih fuel (by omega) hb₃ hb₄ (Or.inr (Or.inr rfl)) rest
    have hclose := skip_append hb₄ (c := '\x7d') (by decide) rest
    have hcolon := skip_append hb₂ (c := ':') (by decide) (b₃ ++ (cs ++ (b₄ ++ '\x7d' :: rest)))
    have hquote := skip_append hb₁ (c := '"') (by decide) (name ++ '"' :: (b₂ ++ ':' :: (b₃ ++ (cs ++ (b₄ ++ '\x7d' :: rest)))))
    have hstring := readString_eq_some_iff.mpr ⟨name, hname, (rfl : name ++ '"' :: (b₂ ++ ':' :: (b₃ ++ (cs ++ (b₄ ++ '\x7d' :: rest)))) = _)⟩
    simp only [List.append_assoc, List.cons_append, readMembers, hquote, hstring, hcolon, hread, hclose]
  | @members b₁ name b₂ b₃ cs b₄ tail t v ms hb₁ hname hb₂ hb₃ h hb₄ htail ih ihtail =>
    intro fuel rest hfuel
    simp only [List.length_append, List.length_cons] at hfuel
    obtain ⟨fuel, rfl⟩ : ∃ k, fuel = k + 1 := ⟨fuel - 1, by omega⟩
    have hread := readValue_inside ih fuel (by omega) hb₃ hb₄ (Or.inl rfl) (tail ++ '\x7d' :: rest)
    have hmore : readMembers fuel (tail ++ '\x7d' :: rest) = some (ms, rest) := ihtail fuel rest (by omega)
    have hcomma := skip_append hb₄ (c := ',') (by decide) (tail ++ '\x7d' :: rest)
    have hcolon := skip_append hb₂ (c := ':') (by decide) (b₃ ++ (cs ++ (b₄ ++ ',' :: (tail ++ '\x7d' :: rest))))
    have hquote := skip_append hb₁ (c := '"') (by decide) (name ++ '"' :: (b₂ ++ ':' :: (b₃ ++ (cs ++ (b₄ ++ ',' :: (tail ++ '\x7d' :: rest))))))
    have hstring := readString_eq_some_iff.mpr ⟨name, hname, (rfl : name ++ '"' :: (b₂ ++ ':' :: (b₃ ++ (cs ++ (b₄ ++ ',' :: (tail ++ '\x7d' :: rest))))) = _)⟩
    simp only [List.append_assoc, List.cons_append, readMembers, hquote, hstring, hcolon, hread, hcomma, hmore]
    rfl

/-! ## Texts -/

/-- The forms of a value as a whole text. -/
def Means (text : List Char) (v : Value) : Prop :=
  ∃ b₁ cs b₂, Space b₁ ∧ Form cs (.value v) ∧ Space b₂ ∧ text = b₁ ++ (cs ++ b₂)

/-- A text is read as a value exactly if it is a form of it. -/
theorem parse?_eq_some_iff {text : String} {v : Value} : parse? text = some v ↔ Means text.toList v := by
  unfold parse?
  dsimp only
  constructor
  · intro h
    split at h
    · rename_i v' rest hread
      split at h
      · rename_i hrest
        cases h
        obtain ⟨b₁, cs, hb₁, hcs, htext⟩ := (sound _).value hread
        obtain ⟨b₂, hb₂, hspace⟩ := exists_space rest
        rw [hrest, List.append_nil] at hspace
        exact ⟨b₁, cs, b₂, hb₁, hcs, hb₂, by rw [htext, hspace]⟩
      · cases h
    · cases h
  · rintro ⟨b₁, cs, b₂, hb₁, hcs, hb₂, htext⟩
    have hfollows : Follows b₂ := fun c hc => Or.inl (hb₂ c (List.mem_of_mem_head? hc))
    have hskip : skip (b₂ ++ []) = [] := dropWhile_exact hb₂ fun _ h => by cases h
    rw [List.append_nil] at hskip
    have hfuel : 2 * cs.length ≤ 2 * text.toList.length + 2 := by
      rw [htext, List.length_append, List.length_append]
      omega
    have hread : readValue (2 * text.toList.length + 2) text.toList = some (v, b₂) := by
      have := hcs.complete (2 * text.toList.length + 2) hfuel hb₁ hfollows
      rwa [← htext] at this
    rw [hread]
    simp only [hskip, if_true]

end NumberRegistry.Json
