/-
  NumberRegistry.Proofs.Net.SocketAddress — which texts are addresses to bind.

  An address with a port is an IPv4 address, or an IPv6 address in brackets with perhaps a
  scope, and digits behind a colon (`SocketAddress.Literal`). A whole text is read as an
  address exactly if it is a form of it (`SocketAddress.parse?_eq_some_iff`), and the text
  of an address is one of its forms (`SocketAddress.literal_text`).
-/
import NumberRegistry.Proofs.Net.Ipv6

namespace NumberRegistry.Net

open Text

variable {s rest : List Char}

/-! ## Socket addresses -/

/-- A port, or the number of a scope: digits, leading zeros and all. -/
def IsNumber (cs : List Char) (n : Nat) : Prop := Decimal.Digits cs ∧ Nat.ofDigitChars 10 cs 0 = n

theorem isNumber_ofNat (n : Nat) : IsNumber (Decimal.ofNat n).toList n := ⟨Decimal.digits_ofNat n, Decimal.ofDigitChars_ofNat n⟩

/-- The scope of an address: where none is written it is zero. -/
inductive Zone : List Char → UInt32 → Prop
  | absent : Zone [] 0
  | written {cs : List Char} {scope : UInt32} (h : IsNumber cs scope.toNat) : Zone ('%' :: cs) scope

namespace SocketAddress

/-- The written forms of a socket address. -/
inductive Literal : SocketAddress → List Char → Prop
  | v4 (ip : Ipv4) {port : UInt16} {cs : List Char} (hport : IsNumber cs port.toNat) :
      Literal (.v4 ip port) (ip.text.toList ++ ':' :: cs)
  | v6 {ip : Ipv6} {scope : UInt32} {port : UInt16} {host zone cs : List Char} (hhost : ip.Literal host)
      (hzone : Zone zone scope) (hport : IsNumber cs port.toNat) :
      Literal (.v6 ip scope port) ('[' :: (host ++ (zone ++ ']' :: ':' :: cs)))

theorem readPort_eq_some_iff {port : UInt16} : readPort s = some (port, rest) ↔
    ∃ cs, s = ':' :: (cs ++ rest) ∧ IsNumber cs port.toNat ∧ EndsDigits Decimal.digit? rest := by
  unfold readPort
  constructor
  · intro h
    obtain ⟨⟨_, s₁⟩, hcolon, htail⟩ := Option.bind_eq_some_iff.mp h
    obtain ⟨⟨n, s₂⟩, hnumber, hpair⟩ := Option.bind_eq_some_iff.mp htail
    obtain rfl := Reader.char_eq_some_iff.mp hcolon
    obtain ⟨cs, rfl, hdigits, hvalue, hmax, hend⟩ := Reader.number_eq_some_iff.mp hnumber
    cases hpair
    refine ⟨cs, rfl, ⟨hdigits, ?_⟩, hend⟩
    rw [hvalue, UInt16.toNat_ofNat_of_lt' (Nat.lt_of_le_of_lt hmax (by decide))]
  · rintro ⟨cs, rfl, ⟨hdigits, hvalue⟩, hend⟩
    have hmax : port.toNat ≤ UInt16.size - 1 := Nat.le_sub_one_of_lt port.toNat_lt
    simp only [Option.bind_eq_bind, Reader.char_eq_some_iff.mpr (rfl : ':' :: (cs ++ rest) = _), Option.bind_some,
      Reader.number_eq_some_iff.mpr ⟨cs, rfl, hdigits, hvalue, hmax, hend⟩, UInt16.ofNat_toNat]
    rfl

theorem readScope_eq_some_iff {scope : UInt32} : readScope s = some (scope, rest) ↔
    ∃ cs, s = '%' :: (cs ++ rest) ∧ IsNumber cs scope.toNat ∧ EndsDigits Decimal.digit? rest := by
  unfold readScope
  constructor
  · intro h
    obtain ⟨⟨_, s₁⟩, hpercent, htail⟩ := Option.bind_eq_some_iff.mp h
    obtain ⟨⟨n, s₂⟩, hnumber, hpair⟩ := Option.bind_eq_some_iff.mp htail
    obtain rfl := Reader.char_eq_some_iff.mp hpercent
    obtain ⟨cs, rfl, hdigits, hvalue, hmax, hend⟩ := Reader.number_eq_some_iff.mp hnumber
    cases hpair
    refine ⟨cs, rfl, ⟨hdigits, ?_⟩, hend⟩
    rw [hvalue, UInt32.toNat_ofNat_of_lt' (Nat.lt_of_le_of_lt hmax (by decide))]
  · rintro ⟨cs, rfl, ⟨hdigits, hvalue⟩, hend⟩
    have hmax : scope.toNat ≤ UInt32.size - 1 := Nat.le_sub_one_of_lt scope.toNat_lt
    simp only [Option.bind_eq_bind, Reader.char_eq_some_iff.mpr (rfl : '%' :: (cs ++ rest) = _), Option.bind_some,
      Reader.number_eq_some_iff.mpr ⟨cs, rfl, hdigits, hvalue, hmax, hend⟩, UInt32.ofNat_toNat]
    rfl

theorem readV4_eq_some_iff {a : SocketAddress} : readV4 s = some (a, rest) ↔
    ∃ ip port cs, a = .v4 ip port ∧ s = ip.text.toList ++ ':' :: (cs ++ rest) ∧ IsNumber cs port.toNat ∧
      EndsDigits Decimal.digit? rest := by
  unfold readV4
  constructor
  · intro h
    obtain ⟨⟨ip, s₁⟩, hip, htail⟩ := Option.bind_eq_some_iff.mp h
    obtain ⟨⟨port, s₂⟩, hport, hpair⟩ := Option.bind_eq_some_iff.mp htail
    obtain ⟨rfl, -⟩ := Reader.ipv4_eq_some_iff.mp hip
    obtain ⟨cs, rfl, hcs, hend⟩ := readPort_eq_some_iff.mp hport
    cases hpair
    exact ⟨ip, port, cs, rfl, rfl, hcs, hend⟩
  · rintro ⟨ip, port, cs, rfl, rfl, hcs, hend⟩
    have hcolon : EndsDigits Decimal.digit? (':' :: (cs ++ rest)) := Reader.endsDigits_cons (by decide) _
    simp only [Option.bind_eq_bind, Reader.ipv4_eq_some_iff.mpr ⟨rfl, hcolon⟩, Option.bind_some,
      readPort_eq_some_iff.mpr ⟨cs, rfl, hcs, hend⟩]
    rfl

/-- A scope is taken where one is written. -/
theorem zone_sound (s : List Char) :
    ∃ zone scope rest, (readScope s).getD (0, s) = (scope, rest) ∧ Zone zone scope ∧ s = zone ++ rest := by
  cases h : readScope s with
  | none => exact ⟨[], 0, s, rfl, .absent, rfl⟩
  | some p =>
    obtain ⟨cs, hs, hcs, -⟩ := readScope_eq_some_iff.mp h
    exact ⟨'%' :: cs, p.1, p.2, rfl, .written hcs, hs⟩

theorem zone_complete {zone : List Char} {scope : UInt32} (h : Zone zone scope) :
    (readScope (zone ++ ']' :: s)).getD (0, zone ++ ']' :: s) = (scope, ']' :: s) := by
  cases h with
  | absent =>
    cases hread : readScope ([] ++ ']' :: s) with
    | none => rfl
    | some p =>
      obtain ⟨cs, hs, -⟩ := readScope_eq_some_iff.mp hread
      cases (List.cons.inj hs).1
  | @written cs scope hcs =>
    rw [List.cons_append, readScope_eq_some_iff.mpr ⟨cs, rfl, hcs, Reader.endsDigits_cons (by decide) s⟩]
    rfl

theorem readV6_sound {a : SocketAddress} (h : readV6 s = some (a, [])) : a.Literal s := by
  unfold readV6 at h
  obtain ⟨⟨_, s₁⟩, hopen, hinner⟩ := Option.bind_eq_some_iff.mp h
  obtain ⟨⟨ip, s₂⟩, hip, hbehind⟩ := Option.bind_eq_some_iff.mp hinner
  obtain ⟨zone, scope, s₃, hread, hzone, rfl⟩ := zone_sound s₂
  simp only [hread] at hbehind
  obtain ⟨⟨_, s₄⟩, hclose, htail⟩ := Option.bind_eq_some_iff.mp hbehind
  obtain ⟨⟨port, s₅⟩, hport, hpair⟩ := Option.bind_eq_some_iff.mp htail
  obtain rfl := Reader.char_eq_some_iff.mp hopen
  obtain ⟨host, rfl, hhost⟩ := Reader.ipv6_sound hip
  obtain rfl := Reader.char_eq_some_iff.mp hclose
  obtain ⟨cs, rfl, hcs, -⟩ := readPort_eq_some_iff.mp hport
  cases hpair
  rw [List.append_nil]
  exact .v6 hhost hzone hcs

theorem readV6_complete {ip : Ipv6} {scope : UInt32} {port : UInt16} {host zone cs : List Char} (hhost : ip.Literal host)
    (hzone : Zone zone scope) (hport : IsNumber cs port.toNat) :
    readV6 ('[' :: (host ++ (zone ++ ']' :: ':' :: cs))) = some (.v6 ip scope port, []) := by
  have hstops : Stops (zone ++ ']' :: ':' :: cs) := by
    cases hzone with
    | absent => exact stops_cons (by decide) _
    | written => exact stops_cons (by decide) _
  have hport : readPort (':' :: cs) = some (port, []) :=
    readPort_eq_some_iff.mpr ⟨cs, by rw [List.append_nil], hport, fun _ hc => by cases hc⟩
  unfold readV6
  simp only [Option.bind_eq_bind, Reader.char_eq_some_iff.mpr (rfl : '[' :: _ = _), Option.bind_some,
    Reader.ipv6_complete hhost hstops, zone_complete hzone, Reader.char_eq_some_iff.mpr (rfl : ']' :: ':' :: cs = _), hport]
  rfl

/-- A whole text is read as an address exactly if it is a form of it. -/
theorem parse?_eq_some_iff {a : SocketAddress} : parse? s = some a ↔ a.Literal s := by
  unfold parse?
  constructor
  · intro h
    split at h
    · rename_i a' hread
      cases h
      rcases Option.or_eq_some_iff.mp hread with h4 | ⟨-, h6⟩
      · obtain ⟨ip, port, cs, rfl, rfl, hcs, -⟩ := readV4_eq_some_iff.mp h4
        rw [List.append_nil]
        exact .v4 ip hcs
      · exact readV6_sound h6
    · cases h
  · intro h
    cases h with
    | @v4 ip port cs hport =>
      rw [readV4_eq_some_iff.mpr ⟨ip, port, cs, rfl, by rw [List.append_nil], hport, fun _ hc => by cases hc⟩]
      rfl
    | @v6 ip scope port host zone cs hhost hzone hport =>
      have hnot : readV4 ('[' :: (host ++ (zone ++ ']' :: ':' :: cs))) = none := by
        cases hread : readV4 ('[' :: (host ++ (zone ++ ']' :: ':' :: cs))) with
        | none => rfl
        | some p =>
          obtain ⟨ip', _, _, -, heq, -⟩ := readV4_eq_some_iff.mp hread
          obtain ⟨c, text, htext⟩ := List.exists_cons_of_ne_nil (Ipv4.text_ne_nil ip')
          have hc := Ipv4.mem_text (htext ▸ List.mem_cons_self : c ∈ ip'.text.toList)
          rw [htext] at heq
          rw [← (List.cons.inj heq).1] at hc
          exact absurd hc (by decide)
      rw [hnot, Option.none_or, readV6_complete hhost hzone hport]

theorem literal_text (a : SocketAddress) : a.Literal a.text.toList := by
  cases a with
  | v4 ip port =>
    rw [text, String.toList_append, String.toList_append, List.append_assoc]
    exact .v4 ip (isNumber_ofNat port.toNat)
  | v6 ip scope port =>
    have hzone : Zone (if scope = 0 then "" else "%" ++ Decimal.ofNat scope.toNat).toList scope := by
      by_cases hscope : scope = 0
      · rw [if_pos hscope, hscope]
        exact .absent
      · rw [if_neg hscope, String.toList_append]
        exact .written (isNumber_ofNat scope.toNat)
    have hform {host : String} (hhost : ip.Literal host.toList) := Literal.v6 hhost hzone (isNumber_ofNat port.toNat)
    have hopen : "[".toList = ['['] := rfl
    have hclose : "]:".toList = [']', ':'] := rfl
    rw [text]
    simp only [String.toList_append, List.append_assoc, hopen, hclose, List.cons_append, List.nil_append]
    split
    · rename_i hmapped
      exact hform (Ipv6.literal_mapped hmapped)
    · exact hform ip.literal_text

end SocketAddress

end NumberRegistry.Net
