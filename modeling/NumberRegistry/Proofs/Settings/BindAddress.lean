/-
  NumberRegistry.Proofs.Settings.BindAddress — which texts name an address to bind.

  An address is given as a text of the address itself, or as a colon and a port, which
  stands for that port of every interface (`Names`); white space around it does not count
  (`Padded`). Both ends of such a text are visible, so it is what trimming leaves
  (`trim_of_padded`), and a text of an address does not begin with a colon, so it is not
  taken for a port (`expandAddress_literal`). Settings therefore bind an address exactly
  if they name it (`bindAddress_ok_iff`); any other text is refused as it was given.
-/
import NumberRegistry.Proofs.Net.SocketAddress
import NumberRegistry.Proofs.Settings.Validation

namespace NumberRegistry

open Text Net

/-! ## White space around a text -/

namespace Text

variable {inner s : List Char}

/-- A text with white space before it and behind it. -/
def Padded (inner s : List Char) : Prop :=
  ∃ before after, (∀ c ∈ before, isBlank c = true) ∧ (∀ c ∈ after, isBlank c = true) ∧ s = before ++ (inner ++ after)

theorem Padded.refl (s : List Char) : Padded s s := ⟨[], [], nofun, nofun, by rw [List.nil_append, List.append_nil]⟩

theorem padded_trim (s : List Char) : Padded (trim s) s := by
  refine ⟨s.takeWhile isBlank, ((s.dropWhile isBlank).reverse.takeWhile isBlank).reverse, ?_, ?_, ?_⟩
  · exact fun c hc => List.mem_takeWhile_imp hc
  · exact fun c hc => List.mem_takeWhile_imp (List.mem_reverse.mp hc)
  · rw [trim, dropBlankEnd, ← List.reverse_append, List.takeWhile_append_dropWhile, List.reverse_reverse,
      List.takeWhile_append_dropWhile]

/-- Trimming leaves a text that is visible at both ends. -/
theorem trim_of_padded (h : Padded inner s) (hhead : ∀ c ∈ inner.head?, isBlank c = false)
    (hlast : ∀ c ∈ inner.getLast?, isBlank c = false) (hne : inner ≠ []) : trim s = inner := by
  obtain ⟨before, after, hbefore, hafter, rfl⟩ := h
  have hfront : ∀ c ∈ (inner ++ after).head?, isBlank c = false := by
    rwa [List.head?_append_of_ne_nil _ hne]
  have hblank : after.reverse.dropWhile isBlank = [] :=
    List.dropWhile_eq_nil_iff.mpr fun c hc => hafter c (List.mem_reverse.mp hc)
  rw [trim, dropWhile_exact hbefore hfront, dropBlankEnd, dropEnd_append hlast, hblank, List.reverse_nil, List.append_nil]

end Text

/-! ## Texts of addresses -/

theorem Text.isBlank_of_isDigit {c : Char} (h : c.isDigit = true) : isBlank c = false := by
  have hc : '0' ≤ c ∧ c ≤ '9' := by simpa [Char.isDigit, Char.le_def] using h
  have hlo : 48 ≤ c.toNat := UInt32.le_iff_toNat_le.mp hc.1
  have hhi : c.toNat ≤ 57 := UInt32.le_iff_toNat_le.mp hc.2
  simp only [isBlank, Bool.or_eq_false_iff, Bool.and_eq_false_iff, decide_eq_false_iff_not, beq_eq_false_iff_ne]
  omega

namespace Net

theorem IsNumber.getLast? {cs : List Char} {n : Nat} (h : IsNumber cs n) (front : List Char) :
    ∃ c, (front ++ cs).getLast? = some c ∧ c.isDigit = true := by
  obtain ⟨hne, hdigits⟩ := h.1
  refine ⟨cs.getLast hne, ?_, hdigits _ (List.getLast_mem hne)⟩
  rw [List.getLast?_append, List.getLast?_eq_some_getLast hne]
  rfl

namespace SocketAddress

variable {a : SocketAddress} {cs : List Char}

theorem Literal.head (h : a.Literal cs) : ∃ c rest, cs = c :: rest ∧ (c.isDigit = true ∨ c = '[') := by
  cases h with
  | @v4 ip port ds hport =>
    obtain ⟨c, digits, htext⟩ := List.exists_cons_of_ne_nil (Decimal.digits_ofNat ip.a.toNat).1
    refine ⟨c, _, by rw [Reader.text_ipv4, htext]; rfl, Or.inl ?_⟩
    exact (Decimal.digits_ofNat ip.a.toNat).2 c (htext ▸ List.mem_cons_self)
  | v6 => exact ⟨'[', _, rfl, Or.inr rfl⟩

theorem Literal.getLast? (h : a.Literal cs) : ∃ c, cs.getLast? = some c ∧ c.isDigit = true := by
  cases h with
  | @v4 ip port ds hport => simpa using hport.getLast? (ip.text.toList ++ [':'])
  | @v6 ip scope port host zone ds hhost hzone hport => simpa using hport.getLast? ('[' :: (host ++ (zone ++ [']', ':'])))

/-- Two texts of IPv4 addresses with ports are the same text only part by part. -/
theorem literal_unspecified {p : List Char} (h : a.Literal (Ipv4.unspecified.text.toList ++ ':' :: p)) :
    ∃ port : UInt16, a = .v4 .unspecified port ∧ IsNumber p port.toNat := by
  have hcolon (cs : List Char) : EndsDigits Decimal.digit? (':' :: cs) := Reader.endsDigits_cons (by decide) cs
  have hunspecified := Reader.ipv4_eq_some_iff.mpr ⟨(rfl : Ipv4.unspecified.text.toList ++ ':' :: p = _), hcolon p⟩
  generalize htext : Ipv4.unspecified.text.toList ++ ':' :: p = text at h hunspecified
  cases h with
  | @v4 ip port ds hport =>
    have hread := Reader.ipv4_eq_some_iff.mpr ⟨(rfl : ip.text.toList ++ ':' :: ds = _), hcolon ds⟩
    rw [hunspecified] at hread
    cases hread
    exact ⟨port, rfl, hport⟩
  | v6 => cases (List.cons.inj htext).1

end SocketAddress

end Net

/-! ## Settings -/

namespace Settings

variable {s : Settings} {a : SocketAddress} {cs : List Char}

/-- The texts that name an address to bind. -/
inductive Names : SocketAddress → List Char → Prop
  | literal {a : SocketAddress} {cs : List Char} (h : a.Literal cs) : Names a cs
  | everywhere {port : UInt16} {cs : List Char} (h : IsNumber cs port.toNat) : Names (.v4 .unspecified port) (':' :: cs)

theorem expandAddress_literal (h : a.Literal cs) : expandAddress cs = cs := by
  obtain ⟨c, rest, rfl, hc⟩ := h.head
  unfold expandAddress
  split
  · rename_i heq
    obtain ⟨rfl, -⟩ := List.cons.inj heq
    exact absurd hc (by decide)
  · rfl

theorem literal_expandAddress_iff : a.Literal (expandAddress cs) ↔ Names a cs := by
  constructor
  · intro h
    unfold expandAddress at h
    split at h
    · rename_i p
      obtain ⟨port, rfl, hport⟩ := SocketAddress.literal_unspecified h
      exact .everywhere hport
    · exact .literal h
  · intro h
    cases h with
    | literal h => rwa [expandAddress_literal h]
    | everywhere h => exact .v4 Ipv4.unspecified h

theorem Names.trim_eq (h : Names a cs) {text : List Char} (hpad : Padded cs text) : trim text = cs := by
  have hlast : ∃ c, cs.getLast? = some c ∧ c.isDigit = true := by
    cases h with
    | literal h => exact h.getLast?
    | everywhere h => exact h.getLast? [':']
  have hhead : ∃ c rest, cs = c :: rest ∧ isBlank c = false := by
    cases h with
    | literal h =>
      obtain ⟨c, rest, rfl, hc | rfl⟩ := h.head
      · exact ⟨c, rest, rfl, isBlank_of_isDigit hc⟩
      · exact ⟨'[', rest, rfl, by decide⟩
    | everywhere h => exact ⟨':', _, rfl, by decide⟩
  obtain ⟨c, rest, rfl, hc⟩ := hhead
  obtain ⟨d, hd, hdigit⟩ := hlast
  refine trim_of_padded hpad ?_ ?_ (List.cons_ne_nil c rest)
  · rintro _ ⟨⟩
    exact hc
  · intro e he
    rw [hd] at he
    cases he
    exact isBlank_of_isDigit hdigit

/-- Settings bind an address exactly if they name it. -/
theorem bindAddress_ok_iff : s.bindAddress = .ok a ↔ ∃ cs, Names a cs ∧ Padded cs s.serverAddr.toList := by
  have htrim : s.bindAddress = .ok a ↔ Names a (trim s.serverAddr.toList) := by
    rw [← literal_expandAddress_iff, ← SocketAddress.parse?_eq_some_iff]
    unfold bindAddress
    split
    · rename_i b hb
      rw [hb, Except.ok.injEq, Option.some.injEq]
    · rename_i hnone
      rw [hnone]
      exact ⟨nofun, nofun⟩
  rw [htrim]
  constructor
  · intro h
    exact ⟨_, h, padded_trim _⟩
  · rintro ⟨cs, h, hpad⟩
    rwa [h.trim_eq hpad]

/-- Every text of an address is read as that address and a bare port as that port of every
    interface, whatever white space is around them; an address that is bound is bound again
    from its text; and any other text is refused, as it was given. -/
theorem bindAddress_reads (s : Settings) :
    (∀ a : SocketAddress, Padded a.text.toList s.serverAddr.toList → s.bindAddress = .ok a) ∧
    (∀ p, Decimal.Digits p → Nat.ofDigitChars 10 p 0 ≤ 65535 → Padded (':' :: p) s.serverAddr.toList →
      s.bindAddress = .ok (.v4 ⟨0, 0, 0, 0⟩ (UInt16.ofNat (Nat.ofDigitChars 10 p 0)))) ∧
    (∀ a, s.bindAddress = .ok a → { s with serverAddr := a.text }.bindAddress = .ok a) ∧
    ((¬ ∃ p, Decimal.Digits p ∧ Nat.ofDigitChars 10 p 0 ≤ 65535 ∧ Padded (':' :: p) s.serverAddr.toList) →
      (¬ ∃ (a : SocketAddress) (cs : List Char), a.Literal cs ∧ Padded cs s.serverAddr.toList) →
      s.bindAddress = .error (.invalidAddress s.serverAddr "invalid socket address syntax")) := by
  refine ⟨?_, ?_, ?_, ?_⟩
  · intro a hpad
    exact bindAddress_ok_iff.mpr ⟨_, .literal a.literal_text, hpad⟩
  · intro p hdigits hmax hpad
    have hport : (UInt16.ofNat (Nat.ofDigitChars 10 p 0)).toNat = Nat.ofDigitChars 10 p 0 :=
      UInt16.toNat_ofNat_of_lt' (Nat.lt_succ_of_le hmax)
    exact bindAddress_ok_iff.mpr ⟨_, .everywhere ⟨hdigits, hport.symm⟩, hpad⟩
  · intro a _
    exact bindAddress_ok_iff.mpr ⟨_, .literal a.literal_text, .refl _⟩
  · intro hport hliteral
    refine bindAddress_error ?_
    rintro ⟨a, ha⟩
    obtain ⟨cs, hnames, hpad⟩ := bindAddress_ok_iff.mp ha
    cases hnames with
    | literal h => exact hliteral ⟨a, cs, h, hpad⟩
    | @everywhere port p h =>
      exact hport ⟨p, h.1, by rw [h.2]; exact Nat.le_of_lt_succ port.toNat_lt, hpad⟩

/-- An address with a scope, a port with a leading zero, an address that is not written as it
    is read, and an IPv6 address without brackets. -/
theorem four_addresses_read :
    ({ serverAddr := "\u2003[2001:db8::1%7]:8080\n" } : Settings).bindAddress =
        .ok (.v6 ⟨[0x2001, 0xDB8, 0, 0, 0, 0, 0, 1], rfl⟩ 7 8080) ∧
      ({ serverAddr := "\t:080 " } : Settings).bindAddress = .ok (.v4 ⟨0, 0, 0, 0⟩ 80) ∧
      ({ serverAddr := "[::FFFF:102:304]:0" } : Settings).bindAddress =
        ({ serverAddr := "[::ffff:1.2.3.4]:0" } : Settings).bindAddress ∧
      ({ serverAddr := " ::1:80 " } : Settings).bindAddress =
        .error (.invalidAddress " ::1:80 " "invalid socket address syntax") := by
  have hblank {c : Char} (hc : isBlank c = true) : ∀ d ∈ [c], isBlank d = true := List.forall_mem_singleton.mpr hc
  refine ⟨(bindAddress_reads _).1 _ ⟨['\u2003'], ['\n'], hblank rfl, hblank rfl, rfl⟩,
    (bindAddress_reads _).2.1 "080".toList ⟨List.cons_ne_nil _ _, List.all_eq_true.mp rfl⟩ (Nat.le_of_ble_eq_true rfl)
      ⟨['\t'], [' '], hblank rfl, hblank rfl, rfl⟩, ?_, ?_⟩
  · have hupper : ({ serverAddr := "[::FFFF:102:304]:0" } : Settings).bindAddress =
        .ok (.v6 ⟨[0, 0, 0, 0, 0, 0xFFFF, 0x102, 0x304], rfl⟩ 0 0) := rfl
    rw [hupper]
    exact ((bindAddress_reads _).2.2.1 _ hupper).symm
  · have hrefused (a : SocketAddress) : ({ serverAddr := " ::1:80 " } : Settings).bindAddress ≠ .ok a := by
      have herror : ({ serverAddr := " ::1:80 " } : Settings).bindAddress =
          .error (.invalidAddress " ::1:80 " "invalid socket address syntax") := rfl
      rw [herror]
      exact nofun
    refine (bindAddress_reads _).2.2.2 ?_ ?_
    · rintro ⟨p, hdigits, hmax, hpad⟩
      exact hrefused _ ((bindAddress_reads _).2.1 p hdigits hmax hpad)
    · rintro ⟨a, cs, hliteral, hpad⟩
      exact hrefused a (bindAddress_ok_iff.mpr ⟨cs, .literal hliteral, hpad⟩)

end Settings

end NumberRegistry
