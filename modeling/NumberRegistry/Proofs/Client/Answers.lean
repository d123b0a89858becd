/-
  NumberRegistry.Proofs.Client.Answers — what the client makes of any answer.

  A body tells something under a name if it is JSON, and an object that has one member of
  the name or a list of nothing but the member's value (`Tells`). A list of numbers is
  told as the numbers if each of them is written as the decimal of a 32-bit integer
  (`int32s?_eq_some_iff`): JSON has no superfluous zeros and no plus sign, so there is no
  other way to write one. An answer with status 200 therefore gives the numbers its body
  tells, or an error of the transport; an answer with any other status gives an error with
  that status and the message its body tells, or the whole body (`addNumber_answered`).
-/
import Mathlib
import NumberRegistry.Proofs.Client.Agreement
import NumberRegistry.Proofs.Json.Grammar

namespace NumberRegistry.Client

open Json Text

/-! ## Fields -/

/-- A value holds another under a name: as the only member of that name, or alone. -/
inductive Holds (name : String) (x : Value) : Value → Prop
  | member {before after : List (Option String × Value)} (htexts : ∀ m ∈ before ++ after, m.1.isSome)
      (honce : ∀ m ∈ before ++ after, m.1 ≠ some name) : Holds name x (.object (before ++ (some name, x) :: after))
  | alone : Holds name x (.array [x])

/-- The members of one name in an object that holds one of that name. -/
theorem filter_once {name : String} {x : Value} {before after : List (Option String × Value)}
    (honce : ∀ m ∈ before ++ after, m.1 ≠ some name) :
    (before ++ (some name, x) :: after).filter (·.1 = some name) = [(some name, x)] := by
  have hother {ms : List (Option String × Value)} (h : ∀ m ∈ ms, m.1 ≠ some name) : ms.filter (·.1 = some name) = [] :=
    List.filter_eq_nil_iff.mpr fun m hm => by simpa using h m hm
  rw [List.filter_append, List.filter_cons_of_pos (by simp), hother fun m hm => honce m (List.mem_append_left _ hm),
    hother fun m hm => honce m (List.mem_append_right _ hm), List.nil_append]

theorem any_unnamed_iff {members : List (Option String × Value)} :
    members.any (·.1 = none) = true ↔ ¬ ∀ m ∈ members, m.1.isSome := by
  rw [List.any_eq_true]
  constructor
  · rintro ⟨m, hm, hnone⟩ htexts
    have hsome := htexts m hm
    rw [of_decide_eq_true hnone] at hsome
    cases hsome
  · intro h
    by_contra hnot
    exact h fun m hm => Option.isSome_iff_ne_none.mpr fun hnone => hnot ⟨m, hm, decide_eq_true hnone⟩

theorem member?_sound {name : String} {x : Value} {members : List (Option String × Value)}
    (h : member? name members = some x) : Holds name x (.object members) := by
  unfold member? at h
  split at h
  · cases h
  · rename_i htexts
    rw [any_unnamed_iff, not_not] at htexts
    split at h
    · rename_i k v hfilter
      cases h
      obtain ⟨before, after, rfl, hbefore, hk, hafter⟩ := List.filter_eq_cons_iff.mp hfilter
      obtain rfl : k = some name := of_decide_eq_true hk
      have hsub {m : Option String × Value} (hm : m ∈ before ++ after) : m ∈ before ++ (some name, x) :: after := by
        rcases List.mem_append.mp hm with hm | hm
        · exact List.mem_append_left _ hm
        · exact List.mem_append_right _ (List.mem_cons_of_mem _ hm)
      refine .member (fun m hm => htexts m (hsub hm)) fun m hm => ?_
      rcases List.mem_append.mp hm with hm | hm
      · simpa using hbefore m hm
      · simpa using List.filter_eq_nil_iff.mp hafter m hm
    · cases h

theorem member?_complete {name : String} {x : Value} {before after : List (Option String × Value)}
    (htexts : ∀ m ∈ before ++ after, m.1.isSome) (honce : ∀ m ∈ before ++ after, m.1 ≠ some name) :
    member? name (before ++ (some name, x) :: after) = some x := by
  have hsome : ∀ m ∈ before ++ (some name, x) :: after, m.1.isSome := by
    intro m hm
    rcases List.mem_append.mp hm with hm | hm
    · exact htexts m (List.mem_append_left _ hm)
    rcases List.mem_cons.mp hm with rfl | hm
    · rfl
    · exact htexts m (List.mem_append_right _ hm)
  unfold member?
  rw [if_neg fun h => any_unnamed_iff.mp h hsome, filter_once honce]

theorem member?_eq_some_iff {name : String} {x : Value} {members : List (Option String × Value)} :
    member? name members = some x ↔ Holds name x (.object members) := by
  constructor
  · exact member?_sound
  · intro h
    generalize hmembers : Value.object members = v at h
    cases h with
    | member htexts honce =>
      cases hmembers
      exact member?_complete htexts honce
    | alone => cases hmembers

theorem field?_eq_some_iff {name : String} {x v : Value} : field? name v = some x ↔ Holds name x v := by
  unfold field?
  split
  · exact member?_eq_some_iff
  · rename_i y
    rw [Option.some.injEq]
    constructor
    · rintro rfl
      exact .alone
    · intro h
      cases h
      rfl
  · rename_i hobject hlist
    constructor
    · intro h
      cases h
    · intro h
      cases h with
      | member => exact absurd rfl (hobject _)
      | alone => exact absurd rfl (hlist _)

/-- What a body tells under a name. -/
def Tells (body : List Char) (name : String) (x : Value) : Prop := ∃ v, Means body v ∧ Holds name x v

/-! ## Numbers -/

theorem ofNat_of_wholeForm {ds : List Char} (h : WholeForm ds) : (Decimal.ofNat (Nat.ofDigitChars 10 ds 0)).toList = ds :=
  Decimal.ofNat_ofDigitChars h.1 fun hzero => by rw [h.2 hzero]; rfl

/-- A number in digits only has neither fraction nor exponent. -/
theorem whole_of_digits {whole fraction exponent : List Char} (hfraction : FractionForm fraction)
    (hexponent : ExponentForm exponent) (h : ∀ c ∈ whole ++ (fraction ++ exponent), c.isDigit = true) :
    whole ++ (fraction ++ exponent) = whole := by
  have hdigit {c : Char} (hc : c ∈ fraction ++ exponent) : c.isDigit = true := h c (List.mem_append_right _ hc)
  rcases hfraction with rfl | ⟨ds, -, rfl⟩
  · rcases hexponent with rfl | ⟨e, sign, ds, he, -, -, rfl⟩
    · rw [List.append_nil, List.append_nil]
    · have hletter : e.isDigit = true := hdigit List.mem_cons_self
      rcases he with rfl | rfl <;> exact absurd hletter (by decide)
  · exact absurd (hdigit List.mem_cons_self) (by decide)

theorem ofInt_neg {n : Nat} (h : n ≠ 0) : Decimal.ofInt (-(n : Int)) = "-" ++ Decimal.ofNat n := by
  obtain ⟨m, rfl⟩ := Nat.exists_eq_succ_of_ne_zero h
  rfl

/-- A whole number is written in one way, zero apart. -/
theorem eq_ofInt_of_numeral {cs : List Char} {i : Int} (h : NumberForm cs) (hi : Decimal.Numeral cs i) :
    cs = (Decimal.ofInt i).toList ∨ cs = "-0".toList := by
  obtain @⟨sign, whole, fraction, exponent, hsign, hwhole, hfraction, hexponent⟩ := h
  obtain ⟨d, tail, hhead, hd⟩ := hwhole.head
  generalize hcs : sign ++ (whole ++ (fraction ++ exponent)) = cs at hi
  rcases hsign with rfl | rfl
  · rw [List.nil_append] at hcs
    cases hi with
    | plain hdigits =>
      rw [← hcs, whole_of_digits hfraction hexponent (hcs ▸ hdigits.2)]
      exact Or.inl (ofNat_of_wholeForm hwhole).symm
    | plus =>
      rw [hhead] at hcs
      obtain ⟨rfl, -⟩ := List.cons.inj hcs
      exact absurd hd (by decide)
    | minus =>
      rw [hhead] at hcs
      obtain ⟨rfl, -⟩ := List.cons.inj hcs
      exact absurd hd (by decide)
  · cases hi with
    | plain hdigits => exact absurd (hdigits.2 '-' (hcs ▸ List.mem_cons_self)) (by decide)
    | plus => exact absurd (List.cons.inj hcs).1 (by decide)
    | @minus ds hdigits =>
      obtain rfl : whole ++ (fraction ++ exponent) = ds := (List.cons.inj hcs).2
      have hds := whole_of_digits hfraction hexponent hdigits.2
      rw [hds]
      by_cases hzero : Nat.ofDigitChars 10 whole 0 = 0
      · have htext := ofNat_of_wholeForm hwhole
        rw [hzero] at htext
        rw [← htext]
        exact Or.inr rfl
      · rw [ofInt_neg hzero, String.toList_append, ofNat_of_wholeForm hwhole]
        exact Or.inl rfl

/-- A 32-bit integer is written in one way. -/
theorem int32?_eq_some_iff {lexeme : String} (h : NumberForm lexeme.toList) {n : Int32} :
    int32? (.number lexeme) = some n ↔ lexeme = Decimal.ofInt n.toInt := by
  constructor
  · intro hread
    rw [int32?] at hread
    by_cases hzero : lexeme = "-0"
    · rw [if_pos hzero] at hread
      cases hread
    · rw [if_neg hzero] at hread
      cases hparse : Decimal.parseInt32 lexeme.toList with
      | error e =>
        rw [hparse] at hread
        cases hread
      | ok m =>
        rw [hparse] at hread
        obtain rfl := Option.some.inj hread
        rcases eq_ofInt_of_numeral h (Decimal.parseInt32_ok_iff.mp hparse) with htext | htext
        · exact String.toList_inj.mp htext
        · exact absurd (String.toList_inj.mp htext) hzero
  · rintro rfl
    exact int32?_integer n

/-- What a value is made of is written as values are. -/
theorem form_items {cs : List Char} {vs : List Value} (h : Form cs (.items vs)) : ∀ v ∈ vs, ∃ cs, Form cs (.value v) := by
  generalize hp : Phrase.items vs = p at h
  induction h generalizing vs with
  | item _ h _ =>
    cases hp
    exact List.forall_mem_singleton.mpr ⟨_, h⟩
  | items _ h _ _ _ ih =>
    cases hp
    exact List.forall_mem_cons.mpr ⟨⟨_, h⟩, ih rfl⟩
  | _ => cases hp

theorem form_members {cs : List Char} {ms : List (Option String × Value)} (h : Form cs (.members ms)) :
    ∀ m ∈ ms, ∃ cs, Form cs (.value m.2) := by
  generalize hp : Phrase.members ms = p at h
  induction h generalizing ms with
  | member _ _ _ _ h _ =>
    cases hp
    exact List.forall_mem_singleton.mpr ⟨_, h⟩
  | members _ _ _ _ h _ _ _ ih =>
    cases hp
    exact List.forall_mem_cons.mpr ⟨⟨_, h⟩, ih rfl⟩
  | _ => cases hp

theorem form_holds {cs : List Char} {name : String} {x v : Value} (h : Form cs (.value v)) (hx : Holds name x v) :
    ∃ cs, Form cs (.value x) := by
  cases hx with
  | alone =>
    cases h with
    | array h => exact form_items h x List.mem_cons_self
  | @member before after _ _ =>
    generalize hms : before ++ (some name, x) :: after = ms at h
    cases h with
    | emptyObject => exact absurd hms (List.append_ne_nil_of_right_ne_nil _ (List.cons_ne_nil _ _))
    | object h => exact form_members h (some name, x) (hms ▸ List.mem_append_right _ List.mem_cons_self)

theorem int32?_form {cs : List Char} {v : Value} (h : Form cs (.value v)) {n : Int32} :
    int32? v = some n ↔ v = .integer n := by
  cases h with
  | @number cs hnumber =>
    rw [int32?_eq_some_iff (by rwa [String.toList_ofList]), Value.integer, Value.number.injEq]
  | _ =>
    constructor
    · intro h
      cases h
    · intro h
      cases h

theorem mapM_int32?_eq_some_iff {vs : List Value} (h : ∀ v ∈ vs, ∃ cs, Form cs (.value v)) {ns : List Int32} :
    vs.mapM int32? = some ns ↔ vs = ns.map Value.integer := by
  constructor
  · intro hread
    induction vs generalizing ns with
    | nil =>
      cases hread
      rfl
    | cons v vs ih =>
      rw [List.forall_mem_cons] at h
      obtain ⟨⟨cs, hv⟩, hvs⟩ := h
      rw [List.mapM_cons] at hread
      obtain ⟨n, hn, hrest⟩ := Option.bind_eq_some_iff.mp hread
      obtain ⟨ns', hns, hcons⟩ := Option.bind_eq_some_iff.mp hrest
      cases hcons
      rw [(int32?_form hv).mp hn, ih hvs hns, List.map_cons]
  · rintro rfl
    exact mapM_int32? ns

/-- Integers are read from a list in which nothing else is, and each is written plainly. -/
theorem int32s?_eq_some_iff {cs : List Char} {x : Value} (h : Form cs (.value x)) {ns : List Int32} :
    int32s? x = some ns ↔ x = .array (ns.map Value.integer) := by
  cases h with
  | emptyArray => rw [int32s?, mapM_int32?_eq_some_iff (fun _ hv => by cases hv), Value.array.injEq]
  | array h => rw [int32s?, mapM_int32?_eq_some_iff (form_items h), Value.array.injEq]
  | _ =>
    constructor
    · intro h
      cases h
    · intro h
      cases h

/-! ## Bodies -/

theorem numbers?_eq_some_iff {body : List Char} {ns : List Int32} :
    numbers? (Utf8.encode body) = some ns ↔ Tells body "numbers" (.array (ns.map Value.integer)) := by
  have hread : numbers? (Utf8.encode body) =
      (Json.parse? (String.ofList body)).bind fun v => (field? "numbers" v).bind int32s? := by
    simp only [numbers?, Utf8.decode?_encode, Except.toOption, Option.bind_eq_bind, Option.bind_some]
  rw [hread]
  constructor
  · intro h
    obtain ⟨v, hv, hfield⟩ := Option.bind_eq_some_iff.mp h
    obtain ⟨x, hx, hns⟩ := Option.bind_eq_some_iff.mp hfield
    rw [parse?_eq_some_iff, String.toList_ofList] at hv
    rw [field?_eq_some_iff] at hx
    obtain ⟨_, _, _, -, hform, -, -⟩ := id hv
    obtain ⟨cs, hcs⟩ := form_holds hform hx
    rw [int32s?_eq_some_iff hcs] at hns
    exact ⟨v, hv, hns ▸ hx⟩
  · rintro ⟨v, hv, hx⟩
    refine Option.bind_eq_some_iff.mpr ⟨v, parse?_eq_some_iff.mpr (by rwa [String.toList_ofList]), ?_⟩
    exact Option.bind_eq_some_iff.mpr ⟨_, field?_eq_some_iff.mpr hx, mapM_int32? ns⟩

theorem message?_eq_some_iff {body : List Char} {message : String} :
    ((Json.parse? (String.ofList body)).bind (field? "error")).bind text? = some message ↔
      Tells body "error" (.text message) := by
  have htext {x : Value} : text? x = some message ↔ x = .text message := by
    cases x with
    | string t => rw [text?, Value.text, Value.string.injEq]
    | _ =>
      constructor
      · intro h
        cases h
      · intro h
        cases h
  rw [Option.bind_eq_some_iff]
  constructor
  · rintro ⟨x, hx, hmessage⟩
    obtain ⟨v, hv, hfield⟩ := Option.bind_eq_some_iff.mp hx
    rw [parse?_eq_some_iff, String.toList_ofList] at hv
    exact ⟨v, hv, htext.mp hmessage ▸ field?_eq_some_iff.mp hfield⟩
  · rintro ⟨v, hv, hx⟩
    refine ⟨_, Option.bind_eq_some_iff.mpr ⟨v, parse?_eq_some_iff.mpr ?_, field?_eq_some_iff.mpr hx⟩, htext.mpr rfl⟩
    rwa [String.toList_ofList]

theorem errorMessage_told {body : List Char} {message : String} (h : Tells body "error" (.text message)) :
    errorMessage (Utf8.encode body) = message := by
  rw [errorMessage, Utf8.decodeLossy_encode, message?_eq_some_iff.mpr h]
  rfl

theorem errorMessage_whole {body : List Char} (h : ¬ ∃ message, Tells body "error" (.text message)) :
    errorMessage (Utf8.encode body) = String.ofList body := by
  rw [errorMessage, Utf8.decodeLossy_encode]
  cases hread : ((Json.parse? (String.ofList body)).bind (field? "error")).bind text? with
  | none => rfl
  | some message => exact absurd ⟨message, message?_eq_some_iff.mp hread⟩ h

/-! ## Answers -/

/-- For every answer to a call to add a number, after all redirections, with a body that is
    text: with status 200 the call gives just the numbers that the body tells, and otherwise
    an error of the transport; with any other status it gives an error with that status and
    the message that the body tells, or the body as it is. -/
theorem addNumber_answered {σ : Type} {c : Client} {network : Network σ} {s s' : σ} {value : Int32} {call : Call}
    {status : Nat} {body : List Char} (hcall : c.addCall value = .ok call)
    (hsend : send network s call = (.ok (status, Utf8.encode body), s')) :
    (status = 200 →
      (∀ ns, (c.addNumber network s value).1 = .ok ns ↔ Tells body "numbers" (.array (ns.map Value.integer))) ∧
      ((¬ ∃ ns : List Int32, Tells body "numbers" (.array (ns.map Value.integer))) →
        (c.addNumber network s value).1 = .error (.http .body))) ∧
    (status ≠ 200 →
      (∀ message, Tells body "error" (.text message) →
        (c.addNumber network s value).1 = .error (.api status message)) ∧
      ((¬ ∃ message, Tells body "error" (.text message)) →
        (c.addNumber network s value).1 = .error (.api status (String.ofList body)))) := by
  rw [addNumber_of_send hcall hsend]
  dsimp only
  constructor
  · intro hstatus
    rw [addResult, if_pos hstatus]
    cases hread : numbers? (Utf8.encode body) with
    | none =>
      refine ⟨fun ns => ⟨fun h => (by cases h), fun h => ?_⟩, fun _ => rfl⟩
      rw [numbers?_eq_some_iff.mpr h] at hread
      cases hread
    | some ms =>
      refine ⟨fun ns => ?_, fun h => absurd ⟨ms, numbers?_eq_some_iff.mp hread⟩ h⟩
      rw [← numbers?_eq_some_iff, hread, Except.ok.injEq, Option.some.injEq]
  · intro hstatus
    rw [addResult, if_neg hstatus]
    constructor
    · intro message h
      rw [errorMessage_told h]
    · intro h
      rw [errorMessage_whole h]

/-- A network in which every call gets the same answer. -/
def alwaysAnswered (status : Nat) (body : List Char) : Network Unit :=
  fun s _ => (.response status none (Utf8.encode body), s)

/-- The service on this machine. -/
def localService : Client := ⟨⟨"http", some ⟨"", none, .name "localhost", none⟩, .rooted [""], none, none⟩⟩

def localCall : Call :=
  ⟨"POST", ⟨"http", some ⟨"", none, .name "localhost", none⟩, .rooted ["numbers"], some "number=5", none⟩⟩

theorem addCall_localService : localService.addCall 5 = .ok localCall := by decide

theorem send_alwaysAnswered (status : Nat) (body : List Char) :
    send (alwaysAnswered status body) () localCall = (.ok (status, Utf8.encode body), ()) := by
  have hcheck : localCall.check = .ok localCall := by decide
  rw [send, hcheck]
  rfl

/-- Spaces, another member, an escaped name, and a status that is not expected. -/
theorem two_answers_told :
    (localService.addNumber (alwaysAnswered 200 "\x7b \"a\" : 1e9, \"n\\u0075mbers\": [ -7,0 ] \x7d".toList) () 5).1 =
        .ok [-7, 0] ∧
      (localService.addNumber (alwaysAnswered 404 "\x7b\"error\":1\x7d".toList) () 5).1 =
        .error (.api 404 "\x7b\"error\":1\x7d") := by
  have hnumbers : Json.parse? "\x7b \"a\" : 1e9, \"n\\u0075mbers\": [ -7,0 ] \x7d" =
      some (.object ([(some "a", .number "1e9")] ++ (some "numbers", .array ([-7, 0].map Value.integer)) :: [])) := by
    cbv
  have herror : Json.parse? "\x7b\"error\":1\x7d" = some (.object [(some "error", .number "1")]) := by cbv
  refine ⟨?_, ?_⟩
  · refine (((addNumber_answered addCall_localService (send_alwaysAnswered 200 _)).1 rfl).1 [-7, 0]).mpr ?_
    exact ⟨_, parse?_eq_some_iff.mp hnumbers, .member (by decide) (by decide)⟩
  · refine ((addNumber_answered addCall_localService (send_alwaysAnswered 404 _)).2 (by decide)).2 ?_
    rintro ⟨message, v, hv, hx⟩
    rw [← parse?_eq_some_iff, herror] at hv
    cases hv
    have hfield : field? "error" (.object [(some "error", .number "1")]) = some (.number "1") := by rfl
    rw [← field?_eq_some_iff, hfield] at hx
    cases hx

/-- A list of nothing but the numbers is taken for an answer, and a list of nothing but a
    text for a message, though neither is an object. An object that holds one message is not
    taken for it if a member's name has half of a pair in it. -/
theorem odd_bodies_are_told :
    ((localService.addNumber (alwaysAnswered 200 "[[1]]".toList) () 5).1 = .ok [1] ∧
        ¬ ∃ members, Means "[[1]]".toList (.object members)) ∧
      ((localService.addNumber (alwaysAnswered 500 "[\"boom\"]".toList) () 5).1 = .error (.api 500 "boom") ∧
        ¬ ∃ members, Means "[\"boom\"]".toList (.object members)) ∧
      (localService.addNumber (alwaysAnswered 500 "\x7b\"\\ud800\":0,\"error\":\"boom\"\x7d".toList) () 5).1 =
          .error (.api 500 "\x7b\"\\ud800\":0,\"error\":\"boom\"\x7d") ∧
        Means "\x7b\"\\ud800\":0,\"error\":\"boom\"\x7d".toList
          (.object [(none, .number "0"), (some "error", .text "boom")]) := by
  have hnumbers : Json.parse? "[[1]]" = some (.array [.array ([1].map Value.integer)]) := by cbv
  have htext : Json.parse? "[\"boom\"]" = some (.array [.text "boom"]) := by cbv
  have hhalf : Json.parse? "\x7b\"\\ud800\":0,\"error\":\"boom\"\x7d" =
      some (.object [(none, .number "0"), (some "error", .text "boom")]) := by cbv
  refine ⟨⟨?_, ?_⟩, ⟨?_, ?_⟩, ?_, parse?_eq_some_iff.mp hhalf⟩
  · rw [addNumber_of_send addCall_localService (send_alwaysAnswered 200 _)]
    show addResult 200 _ = .ok [1]
    rw [addResult, if_pos rfl, numbers?_eq_some_iff.mpr ⟨_, parse?_eq_some_iff.mp hnumbers, .alone⟩]
  · rintro ⟨members, h⟩
    rw [← parse?_eq_some_iff, hnumbers] at h
    cases h
  · rw [addNumber_of_send addCall_localService (send_alwaysAnswered 500 _)]
    show addResult 500 _ = .error (.api 500 "boom")
    rw [addResult, if_neg (by decide), errorMessage_told ⟨_, parse?_eq_some_iff.mp htext, .alone⟩]
  · rintro ⟨members, h⟩
    rw [← parse?_eq_some_iff, htext] at h
    cases h
  · rw [addNumber_of_send addCall_localService (send_alwaysAnswered 500 _)]
    show addResult 500 _ = .error (.api 500 _)
    rw [addResult, if_neg (by decide), errorMessage, Utf8.decodeLossy_encode, String.ofList_toList, hhalf]
    rfl

end NumberRegistry.Client
