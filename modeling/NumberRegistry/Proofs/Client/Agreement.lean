/-
  NumberRegistry.Proofs.Client.Agreement — the client and the service mean the same.

  A client adds a number over HTTP; the service reads the number, calls its store and
  writes what came of it; the client reads that. In between stand four written forms and
  their readers: the URL and its query, the body of numbers, the error body, and the
  status.

  Proved, for a client whose base is the root of a server (`IsRoot`) and a store that
  returns before the deadline:
  - `parse_callTo`: the request's target is read from the URL as it was put there.
  - `addNumber_agrees`: the client is told what the store says to a direct call, and the
    store is left as that call leaves it.
-/
import NumberRegistry.Client.Basic
import NumberRegistry.Proofs.Api.Addition
import NumberRegistry.Proofs.Client.Body
import NumberRegistry.Proofs.Http.Form
import NumberRegistry.Proofs.Http.Target
import NumberRegistry.Proofs.Net.Address

namespace NumberRegistry.Client

open Http Text
open Http.Target (IsHostChar IsPort IsAuthority)

/-! ## The root of a server -/

/-- A host that a server can have: an address, or a name as the name service knows them. -/
def IsServer : Url.Host → Prop
  | .name t => t ≠ "" ∧ t.toList.length ≤ 255 ∧ ∀ c ∈ t.toList, IsHostChar c
  | .ipv4 _ => True
  | .ipv6 _ => True

/-- A URL with a server and nothing in its path. What else it has does not matter. -/
structure IsRoot (u : Url) : Prop where
  scheme : u.scheme = "http" ∨ u.scheme = "https"
  server : ∃ a, u.authority = some a ∧ IsServer a.host
  path : u.path = .rooted [] ∨ u.path = .rooted [""]

/-- The authority without username and password. -/
def bare (a : Url.Authority) : Url.Authority := { a with username := "", password := none }

theorem isPort_portText (a : Url.Authority) : IsPort a.portText.toList := by
  unfold Url.Authority.portText
  split
  · rename_i p _
    exact Or.inr ⟨(Decimal.ofNat p.toNat).toList, by rw [String.toList_append]; rfl, fun _ => Decimal.isDigit_of_mem_ofNat⟩
  · exact Or.inl rfl

theorem length_portText_le (a : Url.Authority) : a.portText.toList.length ≤ 6 := by
  unfold Url.Authority.portText
  split
  · rename_i p _
    have hp := Decimal.length_ofNat_le (k := 5) (by decide) (Nat.lt_of_lt_of_le p.toNat_lt (by decide))
    rw [String.toList_append, List.length_append]
    change 1 + _ ≤ 6
    omega
  · decide

theorem text_bare (a : Url.Authority) : (bare a).text.toList = a.host.text.toList ++ a.portText.toList := by
  have huser : (bare a).userinfo = "" := rfl
  have hport : (bare a).portText = a.portText := rfl
  rw [Url.Authority.text, huser, hport, String.toList_append, String.toList_append]
  rfl

theorem isAuthority_bare {a : Url.Authority} (h : IsServer a.host) : IsAuthority (bare a).text.toList := by
  rw [text_bare]
  have hport := isPort_portText a
  cases hhost : a.host with
  | name t =>
    rw [hhost] at h
    have hne : t.toList ≠ [] := by simpa using h.1
    exact Http.Target.isAuthority_named hne h.2.2 hport
  | ipv4 ip =>
    refine Http.Target.isAuthority_named (Net.Ipv4.text_ne_nil ip) (fun c hc => ?_) hport
    rcases Net.Ipv4.mem_text hc with rfl | hc
    · decide
    · exact Http.Target.isHostChar_of_isDigit hc
  | ipv6 ip =>
    have htext : (Url.Host.ipv6 ip).text.toList = '[' :: (ip.text.toList ++ [']']) := by
      rw [Url.Host.text, String.toList_append, String.toList_append]; rfl
    rw [htext, List.cons_append, List.append_assoc]
    refine Http.Target.isAuthority_bracketed (fun c hc => ?_) (Net.Ipv6.count_colon_text_le ip) hport
    exact (Net.Ipv6.mem_text hc).imp_right Http.Target.isHostChar_of_isAlphanum

theorem length_host_le {h : Url.Host} (hs : IsServer h) : h.text.toList.length ≤ 255 := by
  cases h with
  | name t => exact hs.2.1
  | ipv4 ip => exact Nat.le_trans (Net.Ipv4.length_text_le ip) (by decide)
  | ipv6 ip =>
    have := Net.Ipv6.length_text_le ip
    rw [Url.Host.text, String.toList_append, String.toList_append, List.length_append, List.length_append]
    change 1 + _ + 1 ≤ 255
    omega

/-! ## The call -/

/-- The call that adds a number. -/
def callTo (base : Url) (a : Url.Authority) (value : Int32) : Call where
  method := "POST"
  url := {
    scheme := base.scheme
    authority := some (bare a)
    path := .rooted ["numbers"]
    query := some (Form.encode [("number", Decimal.ofInt value.toInt)])
    fragment := none }

theorem endpoint_root {base : Url} {a : Url.Authority} (hroot : IsRoot base) (ha : base.authority = some a)
    (hs : IsServer a.host) (name : String) :
    endpoint base.asDirectory name =
      .ok { base with authority := some (bare a), path := .rooted [name], query := none, fragment := none } := by
  have hpath : base.path.asDirectory = .rooted [""] := by rcases hroot.path with h | h <;> rw [h] <;> rfl
  have hname : a.host ≠ .name "" := by
    intro h
    rw [h] at hs
    exact hs.1 rfl
  have hjoin : base.asDirectory.join name =
      .ok { base with path := .rooted [name], query := none, fragment := none } := by
    simp [Url.join, Url.asDirectory, hpath]
  have hhost : ({ base with path := .rooted [name], query := none, fragment := none } : Url).host? = some a.host := by
    simp [Url.host?, ha, hname]
  have hsafe : withoutUserinfo { base with path := .rooted [name], query := none, fragment := none } =
      { base with authority := some (bare a), path := .rooted [name], query := none, fragment := none } := by
    simp [withoutUserinfo, bare, ha]
  rw [endpoint, hjoin]
  change (if Option.isNone _ then _ else _) = _
  rw [hhost]
  exact congrArg Except.ok hsafe

theorem addCall_root {base : Url} {a : Url.Authority} (hroot : IsRoot base) (ha : base.authority = some a)
    (hs : IsServer a.host) (value : Int32) :
    (⟨base.asDirectory⟩ : Client).addCall value = .ok (callTo base a value) := by
  rw [addCall, endpoint_root hroot ha hs]
  rfl

/-- The query of the call, as it is written. -/
theorem query_callTo (value : Int32) :
    Form.encode [("number", Decimal.ofInt value.toInt)] =
      String.ofList ("number".toList ++ '=' :: (Decimal.ofInt value.toInt).toList) := by
  refine Form.encode_plain (List.all_eq_true.mp (by decide)) fun c hc => ?_
  rcases Decimal.mem_ofInt hc with rfl | hc
  · decide
  · exact Form.isPlain_of_isDigit hc

theorem length_number_le (value : Int32) : (Decimal.ofInt value.toInt).toList.length ≤ 11 := by
  have hlo := Int32.le_toInt value
  have hhi := Int32.toInt_lt value
  have hten : value.toInt.natAbs < 10000000000 := by omega
  exact Decimal.length_ofInt_le (k := 10) (by decide) hten

theorem text_numbersPath : (Url.Path.rooted ["numbers"]).text = "/numbers" := by decide

theorem text_callTo (base : Url) (a : Url.Authority) (value : Int32) :
    (callTo base a value).url.text = String.ofList (base.scheme.toList ++ ':' :: '/' :: '/' ::
      ((bare a).text.toList ++ ("/numbers".toList ++ '?' ::
        ("number".toList ++ '=' :: (Decimal.ofInt value.toInt).toList)))) := by
  rw [← String.toList_inj, String.toList_ofList]
  simp only [callTo, Url.text, Url.authorityText, Url.queryText, Url.fragmentText, text_numbersPath, query_callTo,
    Option.elim, String.toList_append, String.toList_ofList]
  simp

/-- What the service is asked for is what the URL says. -/
theorem parse_callTo {base : Url} {a : Url.Authority} (hroot : IsRoot base) (hs : IsServer a.host) (value : Int32) :
    Http.Target.parse (callTo base a value).url.text = .ok (targetOf (callTo base a value).url) := by
  have hscheme : base.scheme.toList = "http".toList ∨ base.scheme.toList = "https".toList := by
    rcases hroot.scheme with h | h <;> rw [h] <;> simp
  have hquery : ∀ c ∈ "number".toList ++ '=' :: (Decimal.ofInt value.toInt).toList, Http.Target.isQueryChar c = true := by
    intro c hc
    rcases List.mem_append.mp hc with hc | hc
    · have word : "number".toList.all Http.Target.isQueryChar = true := by decide
      exact List.all_eq_true.mp word c hc
    rcases List.mem_cons.mp hc with rfl | hc
    · decide
    rcases Decimal.mem_ofInt hc with rfl | hc
    · decide
    · exact Http.Target.isQueryChar_of_isDigit hc
  rw [text_callTo]
  refine (Http.Target.parse_absolute hscheme (isAuthority_bare hs) rfl
    (Http.Target.parsePath_append (List.all_eq_true.mp (by decide)) hquery) ?_).trans ?_
  · have hhost := length_host_le hs
    have hport := length_portText_le a
    have hnumber := length_number_le value
    have hlen : base.scheme.toList.length ≤ 5 := by rcases hscheme with h | h <;> rw [h] <;> decide
    have hwords : "/numbers".toList.length = 8 ∧ "number".toList.length = 6 := by decide
    simp only [List.length_append, List.length_cons, text_bare, hwords]
    omega
  · simp [Http.Target.rooted, targetOf, callTo, text_numbersPath, query_callTo]

theorem numberOf_callTo (base : Url) (a : Url.Authority) (value : Int32) :
    Api.numberOf (targetOf (callTo base a value).url).query = .ok value := by
  simp [targetOf, callTo, Api.numberOf, Form.decode_encode, Api.readNumber, Decimal.parseInt32_ofInt]

theorem check_callTo {base : Url} {a : Url.Authority} (hroot : IsRoot base) (hs : IsServer a.host) (value : Int32) :
    (callTo base a value).check = .ok (callTo base a value) := by
  refine if_pos ⟨hroot.scheme, ?_⟩
  rw [parse_callTo hroot hs]
  rfl

/-! ## The answer -/

/-- What the client makes of an answer is what the service made it of. -/
theorem addResult_answerTo (answer : Except Api.Error (List Int32)) :
    addResult (Api.answerTo answer).status (Utf8.encode (Api.answerTo answer).body.toList) =
      answer.mapError fun e => .api e.status e.message := by
  cases answer with
  | ok values =>
    have hbody : (Api.answerTo (.ok values)).body = (Api.numbersBody values).print := rfl
    have hstatus : (Api.answerTo (.ok values)).status = 200 := rfl
    rw [hstatus, hbody, addResult, if_pos rfl, numbers?_numbersBody]
    rfl
  | error e =>
    have hbody : (Api.answerTo (.error e)).body = (Api.errorBody e.message).print := rfl
    have hstatus : (Api.answerTo (.error e)).status = e.status := rfl
    have hfailed : e.status ≠ 200 := by cases e <;> simp [Api.Error.status]
    rw [hstatus, hbody, addResult, if_neg hfailed, errorMessage_errorBody]
    rfl

theorem location_answerTo (answer : Except Api.Error (List Int32)) : (Api.answerTo answer).location = none := by
  cases answer <;> rfl

/-- The errors of a store are failures of the server. -/
theorem status_storeAndList {σ ι : Type} [NumberStore σ ι] (value : Int32) (s : σ) :
    ((Api.storeAndList value s).1.mapError fun e => Error.api e.status e.message) =
      (Api.storeAndList value s).1.mapError fun e => .api 500 e.message := by
  obtain ⟨_, -, h⟩ | ⟨_, _, -, -, h⟩ | ⟨_, _, -, -, h⟩ := Api.storeAndList_cases s value <;> rw [h] <;> rfl

/-- A network in which only the service answers, and sends nobody elsewhere. -/
theorem send_ofService {c : Call} {s s' : Api.Service} {deadline : Nat} {response : Response} (hc : c.check = .ok c)
    (hsent : Network.ofService deadline s c = (replyOf response, s')) (hlocation : response.location = none) :
    send (Network.ofService deadline) s c = (.ok (response.status, Utf8.encode response.body.toList), s') := by
  rw [send, hc]
  simp [follow, hsent, replyOf, hlocation]

/-- The service answers the call as its store answers the number. -/
theorem ofService_callTo (base : Url) (a : Url.Authority) {s : Api.Service} {deadline : Nat} {value : Int32}
    (htime : s.InTime deadline value) :
    let done := Api.storeAndList value s.scripted
    ∃ s', Network.ofService deadline s (callTo base a value) = (replyOf (Api.answerTo done.1), s') ∧
      s'.scripted = done.2 := by
  intro done
  have hadd : Api.IsAddition (requestOf (callTo base a value)) := ⟨rfl, text_numbersPath⟩
  obtain ⟨hresponses, hstore⟩ := Api.finish_addition
    (e := { request := requestOf (callTo base a value), arrival := 0, deadline }) rfl hadd
    (numberOf_callTo base a value) htime
  refine ⟨_, ?_, hstore⟩
  rw [Network.ofService, hresponses]
  rfl

theorem addNumber_of_send {σ : Type} {c : Client} {network : Network σ} {s s' : σ} {value : Int32} {call : Call}
    {status : Nat} {body : Utf8.Bytes} (hcall : c.addCall value = .ok call)
    (hsend : send network s call = (.ok (status, body), s')) :
    c.addNumber network s value = (addResult status body, s') := by
  rw [addNumber, hcall]
  dsimp only
  rw [hsend]

/-- For every base URL that is the root of a server, every number, and every state and
    script of a store whose calls return before the deadline: the client is told the
    numbers that the store says to a direct call, in their order, or that the server has
    failed, with the message of that error; the store is left as the direct call leaves
    it. The service reads the number from the URL of the call, and the client reads every
    body as it was written. -/
theorem addNumber_agrees {text : String} {base : Url} (hparse : Url.parse text = .ok base) (hroot : IsRoot base)
    {s : Api.Service} {deadline : Nat} {value : Int32} (htime : s.InTime deadline value) :
    ∃ c, Client.new text = .ok c ∧
      (let told := c.addNumber (Network.ofService deadline) s value
       let done := Api.storeAndList value s.scripted
       told.1 = done.1.mapError (fun e => .api 500 e.message) ∧ told.2.scripted = done.2) ∧
      (∃ call target, c.addCall value = .ok call ∧ Http.Target.parse call.url.text = .ok target ∧
        Api.numberOf target.query = .ok value) ∧
      (∀ values, numbers? (Utf8.encode (Api.numbersBody values).print.toList) = some values) ∧
      (∀ message, errorMessage (Utf8.encode (Api.errorBody message).print.toList) = message) := by
  obtain ⟨a, ha, hs⟩ := hroot.server
  have hnew : Client.new text = .ok ⟨base.asDirectory⟩ := by rw [Client.new, hparse]
  have hcall := addCall_root hroot ha hs value
  refine ⟨_, hnew, ?_, ⟨_, _, hcall, parse_callTo hroot hs value, numberOf_callTo base a value⟩,
    numbers?_numbersBody, errorMessage_errorBody⟩
  intro told done
  obtain ⟨s', hsent, hstore⟩ := ofService_callTo base a htime
  have hsend := send_ofService (check_callTo hroot hs value) hsent (location_answerTo done.1)
  have htold : told = (addResult _ _, s') := addNumber_of_send hcall hsend
  rw [htold]
  exact ⟨(addResult_answerTo done.1).trans (status_storeAndList value s.scripted), hstore⟩

/-- A server on this machine, its address written in brackets. -/
def loopback : Url where
  scheme := "http"
  authority := some ⟨"", none, .ipv6 ⟨[0, 0, 0, 0, 0, 0, 0, 1], rfl⟩, some 8080⟩
  path := .rooted [""]
  query := none
  fragment := none

/-- A store that is slow to insert and then cannot read; the reason needs escapes. -/
def unreadable : Api.Service where
  store := { records := [⟨0, 5⟩], nextId := 1 }
  script := { insertDelays := [some 3], listFailures := [some (.unavailable "\"é\" \\ \x01\n")] }

theorem unreadable_is_told :
    Url.parse "http://[::1]:8080" = .ok loopback ∧ IsRoot loopback ∧ unreadable.InTime 30000 (-7) ∧
      ∃ c, Client.new "http://[::1]:8080" = .ok c ∧
        (c.addNumber (Network.ofService 30000) unreadable (-7)).1 =
          .error (.api 500 "failed to get numbers: store unavailable: \"é\" \\ \x01\n") ∧
        (c.addNumber (Network.ofService 30000) unreadable (-7)).2.store.records = [⟨0, 5⟩, ⟨1, -7⟩] := by
  have hparse : Url.parse "http://[::1]:8080" = .ok loopback := rfl
  have hroot : IsRoot loopback := ⟨Or.inl rfl, ⟨_, rfl, trivial⟩, Or.inr rfl⟩
  have htime : unreadable.InTime 30000 (-7) := ⟨3, rfl, by decide, fun _ => ⟨0, rfl, by decide⟩⟩
  obtain ⟨c, hnew, ⟨htold, hleft⟩, -⟩ := addNumber_agrees hparse hroot htime
  exact ⟨hparse, hroot, htime, c, hnew, htold.trans rfl, congrArg (·.memory.records) hleft⟩

end NumberRegistry.Client
