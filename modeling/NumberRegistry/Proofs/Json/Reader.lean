/-
  NumberRegistry.Proofs.Json.Reader — what is printed is read back.

  For values whose numbers are whole and whose string literals denote texts
  (`Value.Plain`), a print is a form of the value (`Value.Plain.form`), so the reader gives
  the value back from it (`parse?_print`). That holds for any characters in a text: quotes,
  backslashes and control characters are escaped, and the escapes mean those characters
  again (`stringForm_quote`).
-/
import NumberRegistry.Proofs.Json.Grammar

namespace NumberRegistry.Json

open Text

/-! ## Strings and numbers -/

theorem hexDigits_control {n : Nat} (h : n < 0x20) :
    hexDigits n = ['0', '0', Nat.digitChar (n / 16), Nat.digitChar (n % 16)] ∧
      hex4? '0' '0' (Nat.digitChar (n / 16)) (Nat.digitChar (n % 16)) = some n := by
  have all : ∀ m ∈ List.range 0x20,
      hexDigits m = ['0', '0', Nat.digitChar (m / 16), Nat.digitChar (m % 16)] ∧
        hex4? '0' '0' (Nat.digitChar (m / 16)) (Nat.digitChar (m % 16)) = some m := by decide
  exact all n (List.mem_range.mpr h)

/-- Each character means itself, however it is written. -/
theorem unitForm_escape (c : Char) : UnitForm (escape c) c.toNat := by
  unfold escape
  split
  case h_8 hq hb _ _ _ _ _ =>
    split
    · rename_i hc
      obtain ⟨hdigits, hvalue⟩ := hexDigits_control hc
      rw [hdigits]
      exact .hex hvalue
    · rename_i hc
      exact .plain hc hq hb
  all_goals exact .escaped rfl

theorem unitsForm_escape (s : List Char) : UnitsForm (s.flatMap escape) (s.map Char.toNat) := by
  induction s with
  | nil => exact .nil
  | cons c s ih => exact .cons (unitForm_escape c) ih

theorem denotes_map_toNat (s : List Char) : Denotes (s.map Char.toNat) s := by
  induction s with
  | nil => exact .nil
  | cons c s ih => exact .char c ih

theorem stringForm_quote (s : String) : StringForm (s.toList.flatMap escape) (some s) := by
  refine ⟨_, unitsForm_escape s.toList, fun t => ?_⟩
  have hs := joinPairs_complete (denotes_map_toNat s.toList)
  constructor
  · rintro ⟨⟩
    exact denotes_map_toNat s.toList
  · intro ht
    rw [joinPairs_complete ht, Option.some.injEq, String.toList_inj] at hs
    rw [hs]

theorem wholeForm_ofNat (n : Nat) : WholeForm (Decimal.ofNat n).toList := by
  refine ⟨⟨Decimal.ofInt_ne_nil (.ofNat n), fun _ => Decimal.isDigit_of_mem_ofNat⟩, fun hhead => ?_⟩
  obtain ⟨ds, htext⟩ := List.head?_eq_some_iff.mp hhead
  rcases Decimal.ofNat_leading htext with hc | rfl
  · exact absurd rfl hc
  · exact htext

theorem numberForm_ofInt (i : Int) : NumberForm (Decimal.ofInt i).toList := by
  cases i with
  | ofNat n =>
    have h := NumberForm.mk (Or.inl rfl) (wholeForm_ofNat n) (Or.inl rfl) (Or.inl rfl)
    rwa [List.append_nil, List.append_nil, List.nil_append] at h
  | negSucc n =>
    have h := NumberForm.mk (Or.inr rfl) (wholeForm_ofNat (n + 1)) (Or.inl rfl) (Or.inl rfl)
    rw [List.append_nil, List.append_nil] at h
    rw [Decimal.ofInt, String.toList_append]
    exact h

/-! ## Values -/

/-- Values whose numbers are whole and whose string literals denote texts. -/
inductive Value.Plain : Value → Prop
  | null : Plain .null
  | bool (b : Bool) : Plain (.bool b)
  | integer (i : Int) : Plain (.number (Decimal.ofInt i))
  | text (s : String) : Plain (.string (some s))
  | array {items : List Value} (h : ∀ v ∈ items, Plain v) : Plain (.array items)
  | object {members : List (Option String × Value)} (hk : ∀ m ∈ members, m.1.isSome)
      (hv : ∀ m ∈ members, Plain m.2) : Plain (.object members)

theorem Value.plain_ofMembers {members : List (String × Value)} (h : ∀ m ∈ members, m.2.Plain) :
    (Value.ofMembers members).Plain := by
  refine .object (fun m hm => ?_) fun m hm => ?_ <;> obtain ⟨n, hn, rfl⟩ := List.mem_map.mp hm
  · rfl
  · exact h n hn

theorem space_nil : Space [] := nofun

theorem form_renderItems : ∀ {items : List Value}, items ≠ [] → (∀ v ∈ items, Form v.render (.value v)) →
    Form (renderItems items) (.items items)
  | [v], _, h => by
    have hv := Form.item space_nil (h v List.mem_cons_self) space_nil
    rwa [List.append_nil] at hv
  | v :: w :: vs, _, h =>
    .items space_nil (h v List.mem_cons_self) space_nil
      (form_renderItems (List.cons_ne_nil w vs) fun x hx => h x (List.mem_cons_of_mem _ hx))

theorem form_renderMembers : ∀ {members : List (Option String × Value)}, members ≠ [] → (∀ m ∈ members, m.1.isSome) →
    (∀ m ∈ members, Form m.2.render (.value m.2)) → Form (renderMembers members) (.members members)
  | [(some k, v)], _, _, h => by
    have hv := Form.member space_nil (stringForm_quote k) space_nil space_nil (h (some k, v) List.mem_cons_self) space_nil
    simpa [renderMembers, quote] using hv
  | (some k, v) :: m :: ms, _, hk, h => by
    have htail := form_renderMembers (List.cons_ne_nil m ms) (fun x hx => hk x (List.mem_cons_of_mem _ hx))
      fun x hx => h x (List.mem_cons_of_mem _ hx)
    have hv := Form.members space_nil (stringForm_quote k) space_nil space_nil (h (some k, v) List.mem_cons_self)
      space_nil htail
    simpa [renderMembers, quote] using hv
  | (none, _) :: _, _, hk, _ => absurd (hk _ List.mem_cons_self) (by simp)

/-- A print is a form of the value. -/
theorem Value.Plain.form {v : Value} (h : v.Plain) : Form v.render (.value v) := by
  induction h with
  | null => exact .null
  | bool b => exact .bool b
  | integer i =>
    have hnumber := Form.number (numberForm_ofInt i)
    rwa [String.ofList_toList] at hnumber
  | text s => exact .string (stringForm_quote s)
  | @array items _ ih =>
    cases items with
    | nil => exact .emptyArray space_nil
    | cons v vs => exact .array (form_renderItems (List.cons_ne_nil v vs) ih)
  | @object members hk _ ih =>
    cases members with
    | nil => exact .emptyObject space_nil
    | cons m ms => exact .object (form_renderMembers (List.cons_ne_nil m ms) hk ih)

/-- A print is read as the value it was made of. -/
theorem parse?_print {v : Value} (h : v.Plain) : parse? v.print = some v := by
  refine parse?_eq_some_iff.mpr ⟨[], v.render, [], space_nil, h.form, space_nil, ?_⟩
  rw [Value.print, String.toList_ofList, List.nil_append, List.append_nil]

end NumberRegistry.Json
