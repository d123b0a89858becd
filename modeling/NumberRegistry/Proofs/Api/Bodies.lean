/-
  NumberRegistry.Proofs.Api.Bodies — what can be told from the body of an answer.

  (1) A body of numbers tells them: two lists with the same body are the same list
      (`numbersResponse_inj`).
  (2) The body of a failed request tells which store call failed: it begins with the
      words for it (`failed_insert`, `failed_list`).
-/
import NumberRegistry.Proofs.Api.Exchange
import NumberRegistry.Proofs.Text.Decimal

namespace NumberRegistry.Api

open Text Http Json

/-! ## (1) Numbers -/

/-- The answer that shows numbers. -/
def numbersResponse (values : List Int32) : Response := jsonResponse 200 (numbersBody values)

@[simp] theorem status_jsonResponse (status : Nat) (body : Value) : (jsonResponse status body).status = status := by
  simp [jsonResponse, Response.withBody]

theorem render_integer (n : Int32) : (Value.integer n).render = (Decimal.ofInt n.toInt).toList := by
  simp [Value.integer, Value.render]

theorem comma_notMem_integer (n : Int32) : ',' ∉ (Value.integer n).render := by
  intro h
  rw [render_integer] at h
  rcases Decimal.mem_ofInt h with h | h <;> exact absurd h (by decide)

theorem render_integer_inj {m n : Int32} (h : (Value.integer m).render = (Value.integer n).render) : m = n := by
  rw [render_integer, render_integer] at h
  exact Int32.toInt_inj.mp (Decimal.ofInt_inj (String.toList_inj.mp h))

/-- A text that is cut at its first comma has one first part and one rest. -/
theorem eq_of_cut {c : Char} : ∀ {a b r t : List Char}, c ∉ a → c ∉ b → a ++ c :: r = b ++ c :: t →
    a = b ∧ r = t := by
  intro a
  induction a with
  | nil =>
    intro b r t _ hb h
    cases b with
    | nil => simpa using h
    | cons x b => simp only [List.nil_append, List.cons_append, List.cons.injEq] at h; simp [h.1] at hb
  | cons y a ih =>
    intro b r t ha hb h
    cases b with
    | nil => simp only [List.nil_append, List.cons_append, List.cons.injEq] at h; simp [h.1] at ha
    | cons x b =>
      simp only [List.cons_append, List.cons.injEq] at h
      simp only [List.mem_cons, not_or] at ha hb
      obtain ⟨rfl, rfl⟩ := ih ha.2 hb.2 h.2
      exact ⟨by rw [h.1], rfl⟩

theorem renderItems_ne_nil (n : Int32) (ns : List Int32) :
    renderItems ((n :: ns).map Value.integer) ≠ [] := by
  have hn : (Value.integer n).render ≠ [] := by
    rw [render_integer]; exact Decimal.ofInt_ne_nil _
  cases ns with
  | nil => simpa [renderItems] using hn
  | cons m ms => simp [renderItems]

/-- No comma stands inside a number, so the commas are those between the items. -/
theorem renderItems_inj : ∀ {v w : List Int32},
    renderItems (v.map Value.integer) = renderItems (w.map Value.integer) → v = w := by
  intro v
  induction v with
  | nil =>
    intro w h
    cases w with
    | nil => rfl
    | cons n ns => exact absurd h.symm (renderItems_ne_nil n ns)
  | cons m ms ih =>
    intro w h
    cases w with
    | nil => exact absurd h (renderItems_ne_nil m ms)
    | cons n ns =>
      cases ms with
      | nil =>
        cases ns with
        | nil =>
          simp only [List.map_cons, List.map_nil, renderItems] at h
          rw [render_integer_inj h]
        | cons k ks =>
          have hc : ',' ∈ (Value.integer m).render := by
            simp only [List.map_cons, List.map_nil, renderItems] at h
            rw [h]; simp
          exact absurd hc (comma_notMem_integer m)
      | cons j js =>
        cases ns with
        | nil =>
          have hc : ',' ∈ (Value.integer n).render := by
            simp only [List.map_cons, List.map_nil, renderItems] at h
            rw [← h]; simp
          exact absurd hc (comma_notMem_integer n)
        | cons k ks =>
          simp only [List.map_cons, renderItems] at h
          obtain ⟨hm, hr⟩ := eq_of_cut (comma_notMem_integer m) (comma_notMem_integer n) h
          rw [render_integer_inj hm, ih (w := k :: ks) hr]

/-- A body of numbers tells the numbers and their order. -/
theorem numbersResponse_inj {v w : List Int32} (h : numbersResponse v = numbersResponse w) : v = w := by
  have hb : (numbersBody v).render = (numbersBody w).render :=
    String.ofList_injective (congrArg Response.body h)
  refine renderItems_inj ?_
  simpa [numbersBody, Value.ofMembers, Value.render, renderMembers] using hb

/-! ## (2) Failures -/

/-- What the message of a failed insert begins with. -/
def insertWords : String := "failed to insert number: "

/-- What the message of a failed read begins with. -/
def listWords : String := "failed to get numbers: "

/-- The answer that the server has failed, with a message that begins so. -/
def FailedWith (words : String) (response : Response) : Prop :=
  response.status = 500 ∧ ("\x7b\"error\":\"" ++ words).toList <+: response.body.toList

instance (words : String) : DecidablePred (FailedWith words) := fun response =>
  inferInstanceAs (Decidable (response.status = 500 ∧
    ("\x7b\"error\":\"" ++ words).toList <+: response.body.toList))

theorem body_error (e : Error) :
    e.response.body.toList = "\x7b\"error\":\"".toList ++ (e.message.toList.flatMap escape ++ ['"', '\x7d']) := by
  have hk : quote "error".toList = "\"error\"".toList := by decide
  simp only [Error.response, jsonResponse, Response.withBody, errorBody, Value.print, Value.ofMembers,
    Value.text, Value.render, renderMembers, List.map_cons, List.map_nil, Option.getD_some,
    String.toList_ofList, hk]
  simp [quote]

/-- Plain words at the start of a message stand at the start of the body. -/
theorem prefix_body {words : String} (hw : words.toList.flatMap escape = words.toList) (other rest : String)
    (e : Error) (he : e.message = words ++ rest) :
    (("\x7b\"error\":\"" ++ other).toList <+: e.response.body.toList ↔
      other.toList <+: words.toList ++ (rest.toList.flatMap escape ++ ['"', '\x7d'])) := by
  rw [body_error, he, String.toList_append, String.toList_append, List.flatMap_append, hw,
    List.append_assoc]
  exact List.prefix_append_right_inj _

theorem escape_insertWords : insertWords.toList.flatMap escape = insertWords.toList := by decide

theorem escape_listWords : listWords.toList.flatMap escape = listWords.toList := by decide

theorem failed_insert (cause : Store.Error) :
    FailedWith insertWords (Error.insert cause).response ∧ ¬ FailedWith listWords (Error.insert cause).response := by
  refine ⟨⟨rfl, (prefix_body escape_insertWords _ _ _ rfl).mpr (List.prefix_append _ _)⟩, fun h => ?_⟩
  have := (prefix_body escape_insertWords _ _ (.insert cause) rfl).mp h.2
  revert this
  simp [insertWords, listWords]

theorem failed_list (cause : Store.Error) :
    FailedWith listWords (Error.list cause).response ∧ ¬ FailedWith insertWords (Error.list cause).response := by
  refine ⟨⟨rfl, (prefix_body escape_listWords _ _ _ rfl).mpr (List.prefix_append _ _)⟩, fun h => ?_⟩
  have := (prefix_body escape_listWords _ _ (.list cause) rfl).mp h.2
  revert this
  simp [insertWords, listWords]

theorem not_failedWith {words : String} {response : Response} (h : response.status ≠ 500) :
    ¬ FailedWith words response := fun hf => h hf.1

end NumberRegistry.Api
