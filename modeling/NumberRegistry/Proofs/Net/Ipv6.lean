/-
  NumberRegistry.Proofs.Net.Ipv6 — which texts are IPv6 addresses, and what they are read as.

  The written forms are stated as a grammar, without a reader: a group is one to four
  hexadecimal digits (`IsGroup`), groups have colons between them (`Groups`), and the eight
  groups of an address are all there or some zeros in one place are left out
  (`Ipv6.Literal`). The reader takes just these forms off the front of a text
  (`groups_sound`, `groups_complete`), so a whole text is read as an address exactly if it
  is a form of it (`Ipv6.parse?_eq_some_iff`). The text of an address is one of its forms
  (`Ipv6.literal_text`), and so is the dotted one of a mapped address
  (`Ipv6.literal_mapped`).

  A reader of groups goes on as long as it can. What keeps it from going on is what stands
  behind an address: nothing, a bracket, a percent sign, or the two colons of left-out
  zeros (`Stops`).
-/
import NumberRegistry.Proofs.Net.Ipv4

namespace NumberRegistry.Net

open Text

variable {c : Char} {s rest : List Char}

/-! ## Groups -/

theorem hexValue?_of_isDigit (h : c.isDigit = true) : (Percent.hexValue? c).isSome = true := by
  have hc : '0' ≤ c ∧ c ≤ '9' := by simpa [Char.isDigit, Char.le_def] using h
  rw [Percent.hexValue?, if_pos hc]
  rfl

/-- A group: one to four hexadecimal digits. -/
def IsGroup (cs : List Char) (g : UInt16) : Prop :=
  cs ≠ [] ∧ cs.length ≤ 4 ∧ ∃ ds : List Nat, cs.map Percent.hexValue? = ds.map some ∧ Reader.ofDigits 16 ds = g.toNat

theorem IsGroup.isSome_hexValue? {cs : List Char} {g : UInt16} (h : IsGroup cs g) :
    ∀ c ∈ cs, (Percent.hexValue? c).isSome = true := by
  obtain ⟨-, -, ds, hds, -⟩ := h
  intro c hc
  have hmem : Percent.hexValue? c ∈ ds.map some := hds ▸ List.mem_map_of_mem hc
  obtain ⟨d, -, hd⟩ := List.mem_map.mp hmem
  rw [← hd]
  rfl

theorem ofDigits_lt {cs : List Char} {ds : List Nat} (h : cs.map Percent.hexValue? = ds.map some) :
    Reader.ofDigits 16 ds < Nat.pow 16 cs.length := by
  induction cs using List.reverseRecOn generalizing ds with
  | nil =>
    rw [List.map_eq_nil_iff.mp h.symm]
    decide
  | append_singleton cs c ih =>
    rw [List.map_append, List.map_singleton] at h
    obtain ⟨front, back, rfl, hfront, hback⟩ := List.map_eq_append_iff.mp h.symm
    obtain ⟨d, rfl, hd⟩ := List.map_eq_singleton_iff.mp hback
    have ih := ih hfront.symm
    have hd := Percent.hexValue?_lt hd.symm
    rw [Reader.ofDigits, List.foldl_append, List.length_append, List.length_singleton]
    show Reader.ofDigits 16 front * 16 + d < Nat.pow 16 cs.length * 16
    omega

/-- Groups with colons between them; the flag tells whether the last two are written as an
    IPv4 address. -/
inductive Groups : Bool → List Char → List UInt16 → Prop
  | one {cs : List Char} {g : UInt16} (h : IsGroup cs g) : Groups false cs [g]
  | embedded (ip : Ipv4) : Groups true ip.text.toList ip.groups
  | cons {cs : List Char} {g : UInt16} {dotted : Bool} {text : List Char} {gs : List UInt16} (h : IsGroup cs g)
      (hrest : Groups dotted text gs) : Groups dotted (cs ++ ':' :: text) (g :: gs)

/-- What no reader of groups goes into: no group or IPv4 address ends in it, and none is
    behind a colon there. -/
structure Stops (rest : List Char) : Prop where
  head : ∀ c ∈ rest.head?, Percent.hexValue? c = none ∧ c ≠ '.'
  colon : ∀ r, rest = ':' :: r → EndsDigits Percent.hexValue? r

theorem endsDigits_of_hex (h : EndsDigits Percent.hexValue? rest) : EndsDigits Decimal.digit? rest := by
  intro c hc
  cases hd : Decimal.digit? c with
  | none => rfl
  | some d =>
    have hsome := hexValue?_of_isDigit (Decimal.isDigit_of_digit? hd).1
    rw [h c hc] at hsome
    cases hsome

theorem Stops.endsHex (h : Stops rest) : EndsDigits Percent.hexValue? rest := fun c hc => (h.head c hc).1

theorem stops_nil : Stops [] := ⟨nofun, nofun⟩

theorem stops_cons (h : Percent.hexValue? c = none ∧ c ≠ '.' ∧ c ≠ ':') (cs : List Char) : Stops (c :: cs) := by
  refine ⟨?_, ?_⟩
  · rintro d ⟨⟩
    exact ⟨h.1, h.2.1⟩
  · rintro r hr
    exact absurd (List.cons.inj hr).1 h.2.2

theorem stops_elision (cs : List Char) : Stops (':' :: ':' :: cs) := by
  refine ⟨?_, ?_⟩
  · rintro d ⟨⟩
    decide
  · rintro r ⟨⟩
    rintro d ⟨⟩
    decide

namespace Reader

theorem group_eq_some_iff {g : UInt16} : group s = some (g, rest) ↔
    ∃ cs, s = cs ++ rest ∧ IsGroup cs g ∧ EndsDigits Percent.hexValue? rest := by
  unfold group
  dsimp only
  constructor
  · intro h
    obtain ⟨cs, hs, hds, hend⟩ := spanDigits_sound Percent.hexValue? s
    split at h
    · cases h
    · rename_i hok
      rw [not_or, Nat.not_lt] at hok
      obtain ⟨hg, hrest⟩ := Prod.mk.inj (Option.some.inj h)
      rw [hrest] at hs hend
      have hlength := length_of_map hds
      have hlt : ofDigits 16 (spanDigits Percent.hexValue? s).1 < UInt16.size :=
        Nat.lt_of_lt_of_le (ofDigits_lt hds) (Nat.pow_le_pow_right (by decide) (hlength ▸ hok.2))
      refine ⟨cs, hs, ⟨?_, hlength ▸ hok.2, _, hds, ?_⟩, hend⟩
      · rintro rfl
        exact hok.1 (List.map_eq_nil_iff.mp hds.symm)
      · rw [← hg, UInt16.toNat_ofNat_of_lt' hlt]
  · rintro ⟨cs, rfl, ⟨hne, hshort, ds, hds, hvalue⟩, hend⟩
    have hlength := length_of_map hds
    rw [spanDigits_complete hds hend, hvalue]
    dsimp only
    rw [if_neg, UInt16.ofNat_toNat]
    rw [not_or, Nat.not_lt]
    refine ⟨?_, hlength ▸ hshort⟩
    rintro rfl
    exact hne (List.map_eq_nil_iff.mp hds)

/-- An IPv4 address does not begin with a group that no dot follows. -/
theorem ipv4_of_group {cs : List Char} {g : UInt16} (h : IsGroup cs g)
    (hrest : ∀ c ∈ rest.head?, Percent.hexValue? c = none ∧ c ≠ '.') : ipv4 (cs ++ rest) = none := by
  cases hread : ipv4 (cs ++ rest) with
  | none => rfl
  | some p =>
    obtain ⟨ip, rest'⟩ := p
    obtain ⟨heq, -⟩ := ipv4_eq_some_iff.mp hread
    rw [text_ipv4, List.append_assoc, List.cons_append] at heq
    -- both sides are cut behind the first hexadecimal digits
    have hcut := congrArg (List.dropWhile fun c => (Percent.hexValue? c).isSome) heq
    rw [dropWhile_exact h.isSome_hexValue? fun c hc => by rw [(hrest c hc).1]; rfl,
      dropWhile_exact (fun c hc => hexValue?_of_isDigit (Decimal.isDigit_of_mem_ofNat hc)) (by rintro c ⟨⟩; decide)] at hcut
    rw [hcut] at hrest
    exact absurd rfl (hrest '.' rfl).2

/-- What stands before a group. -/
def separator (first : Bool) : List Char := if first then [] else [':']

theorem colon_eq_some_iff {first : Bool} : colon first s = some ((), rest) ↔ s = separator first ++ rest := by
  cases first with
  | true =>
    rw [colon, separator, if_pos rfl, if_pos rfl, List.nil_append, Option.some.injEq, Prod.mk.injEq]
    exact ⟨And.right, fun h => ⟨rfl, h⟩⟩
  | false => exact char_eq_some_iff

/-- Where no group stands, none is taken. -/
theorem groups_none {first : Bool} (h : ∀ r, s = separator first ++ r → EndsDigits Percent.hexValue? r) (room : Nat) :
    groups first room s = (([], false), s) := by
  cases room with
  | zero => rfl
  | succ room =>
    have hnone {α : Type} {reader : Reader α} (hreader : ∀ r, EndsDigits Percent.hexValue? r → reader r = none) :
        ((colon first s).bind fun p => reader p.2) = none := by
      cases hcolon : colon first s with
      | none => rfl
      | some p => exact hreader _ (h p.2 (colon_eq_some_iff.mp hcolon))
    have hgroup (r : List Char) (hr : EndsDigits Percent.hexValue? r) : group r = none := by
      cases hread : group r with
      | none => rfl
      | some p =>
        obtain ⟨cs, rfl, hg, -⟩ := group_eq_some_iff.mp hread
        cases cs with
        | nil => exact absurd rfl hg.1
        | cons c cs =>
          have hc := hg.isSome_hexValue? c List.mem_cons_self
          rw [hr c rfl] at hc
          cases hc
    have hipv4 (r : List Char) (hr : EndsDigits Percent.hexValue? r) : ipv4 r = none := by
      cases hread : ipv4 r with
      | none => rfl
      | some p =>
        obtain ⟨rfl, -⟩ := ipv4_eq_some_iff.mp hread
        obtain ⟨c, cs, htext⟩ := List.exists_cons_of_ne_nil (Decimal.digits_ofNat p.1.a.toNat).1
        have hc := hexValue?_of_isDigit (Decimal.isDigit_of_mem_ofNat (htext ▸ List.mem_cons_self : c ∈ (Decimal.ofNat _).toList))
        rw [hr c (by rw [text_ipv4, htext]; rfl)] at hc
        cases hc
    rw [groups, hnone hipv4, hnone hgroup, ite_self]

theorem groups_sound {first dotted : Bool} {room : Nat} {gs : List UInt16}
    (h : groups first room s = ((gs, dotted), rest)) :
    (gs = [] ∧ dotted = false ∧ rest = s) ∨
      ∃ cs, Groups dotted cs gs ∧ s = separator first ++ (cs ++ rest) ∧ gs.length ≤ room := by
  induction room generalizing first s gs with
  | zero =>
    obtain ⟨⟨rfl, rfl⟩, rfl⟩ := h
    exact Or.inl ⟨rfl, rfl, rfl⟩
  | succ room ih =>
    rw [groups] at h
    split at h
    · rename_i ip rest' hread
      obtain ⟨⟨rfl, rfl⟩, rfl⟩ := h
      by_cases hroom : room = 0
      · rw [if_pos hroom] at hread
        cases hread
      · rw [if_neg hroom] at hread
        obtain ⟨⟨_, r⟩, hcolon, hip⟩ := Option.bind_eq_some_iff.mp hread
        obtain rfl := colon_eq_some_iff.mp hcolon
        obtain ⟨hr, -⟩ := ipv4_eq_some_iff.mp hip
        refine Or.inr ⟨_, .embedded ip, by rw [← hr], ?_⟩
        show 2 ≤ room + 1
        omega
    · split at h
      · obtain ⟨⟨rfl, rfl⟩, rfl⟩ := h
        exact Or.inl ⟨rfl, rfl, rfl⟩
      · rename_i g r' hread
        obtain ⟨⟨_, r⟩, hcolon, hgroup⟩ := Option.bind_eq_some_iff.mp hread
        obtain rfl := colon_eq_some_iff.mp hcolon
        obtain ⟨cs, hr, hg, -⟩ := group_eq_some_iff.mp hgroup
        obtain ⟨gs', dotted', rest', hmore⟩ : ∃ gs' dotted' rest', groups false room r' = ((gs', dotted'), rest') :=
          ⟨_, _, _, rfl⟩
        simp only [hmore] at h
        obtain ⟨⟨rfl, rfl⟩, rfl⟩ := h
        rcases ih hmore with ⟨rfl, rfl, rfl⟩ | ⟨cs', hgs, rfl, hlength⟩
        · exact Or.inr ⟨cs, .one hg, by rw [← hr], Nat.succ_le_succ (Nat.zero_le room)⟩
        · refine Or.inr ⟨cs ++ ':' :: cs', .cons hg hgs, ?_, Nat.succ_le_succ hlength⟩
          show separator first ++ r = _
          rw [show r = cs ++ (separator false ++ (cs' ++ rest)) from hr, List.append_assoc]
          rfl

theorem groups_complete {dotted : Bool} {cs : List Char} {gs : List UInt16} (h : Groups dotted cs gs)
    (hrest : Stops rest) {first : Bool} {room : Nat} (hroom : gs.length ≤ room) :
    groups first room (separator first ++ (cs ++ rest)) = ((gs, dotted), rest) := by
  have hcolon {first : Bool} {s : List Char} : colon first (separator first ++ s) = some ((), s) := colon_eq_some_iff.mpr rfl
  induction h generalizing first room with
  | @one cs g hg =>
    obtain ⟨room, rfl⟩ : ∃ r, room = r + 1 := ⟨room - 1, by rw [List.length_singleton] at hroom; omega⟩
    have hbehind : groups false room rest = (([], false), rest) := groups_none (fun r hr => hrest.colon r hr) room
    simp only [groups, hcolon, Option.bind_some, ipv4_of_group hg hrest.head, ite_self,
      group_eq_some_iff.mpr ⟨cs, rfl, hg, hrest.endsHex⟩, hbehind]
  | embedded ip =>
    obtain ⟨room, rfl⟩ : ∃ r, room = r + 1 := ⟨room - 1, by simp only [Ipv4.groups, List.length_cons] at hroom; omega⟩
    have hmore : room ≠ 0 := by simp only [Ipv4.groups, List.length_cons] at hroom; omega
    simp only [groups, hcolon, Option.bind_some, if_neg hmore,
      ipv4_eq_some_iff.mpr ⟨rfl, endsDigits_of_hex hrest.endsHex⟩]
  | @cons cs g dotted text gs hg hgs ih =>
    rw [List.length_cons] at hroom
    obtain ⟨room, rfl⟩ : ∃ r, room = r + 1 := ⟨room - 1, by omega⟩
    have hnext : ∀ c ∈ (':' :: (text ++ rest)).head?, Percent.hexValue? c = none ∧ c ≠ '.' := by
      rintro c ⟨⟩
      decide
    have hbehind : groups false room (':' :: (text ++ rest)) = ((gs, dotted), rest) := ih (by omega)
    rw [List.append_assoc, List.cons_append]
    simp only [groups, hcolon, Option.bind_some, ipv4_of_group hg hnext, ite_self,
      group_eq_some_iff.mpr ⟨cs, rfl, hg, fun c hc => (hnext c hc).1⟩, hbehind]

end Reader

/-! ## IPv6 -/

/-- The groups on one side of left-out zeros: perhaps none. -/
def Side (dotted : Bool) (cs : List Char) (gs : List UInt16) : Prop := (cs = [] ∧ gs = []) ∨ Groups dotted cs gs

/-- The written forms of an IPv6 address. -/
inductive Ipv6.Literal (ip : Ipv6) : List Char → Prop
  | whole {dotted : Bool} {cs : List Char} (h : Groups dotted cs ip.groups) : Literal ip cs
  | elided {dotted : Bool} {front back : List Char} {fs bs : List UInt16} (hfront : Side false front fs)
      (hback : Side dotted back bs) (hlength : fs.length + bs.length ≤ 7)
      (hgroups : ip.groups = fs ++ List.replicate (8 - fs.length - bs.length) 0 ++ bs) :
      Literal ip (front ++ ':' :: ':' :: back)

theorem Ipv6.ofGroups?_eq_some_iff {gs : List UInt16} {ip : Ipv6} : Ipv6.ofGroups? gs = some ip ↔ ip.groups = gs := by
  unfold Ipv6.ofGroups?
  constructor
  · intro h
    split at h
    · cases h
      rfl
    · cases h
  · rintro rfl
    rw [dif_pos ip.length_eq]

namespace Reader

theorem side_sound {dotted : Bool} {room : Nat} {gs : List UInt16} (h : groups true room s = ((gs, dotted), rest)) :
    ∃ cs, Side dotted cs gs ∧ s = cs ++ rest ∧ gs.length ≤ room := by
  rcases groups_sound h with ⟨rfl, rfl, rfl⟩ | ⟨cs, hgs, hs, hlength⟩
  · exact ⟨[], Or.inl ⟨rfl, rfl⟩, rfl, Nat.zero_le room⟩
  · exact ⟨cs, Or.inr hgs, hs, hlength⟩

theorem side_complete {dotted : Bool} {cs : List Char} {gs : List UInt16} (h : Side dotted cs gs) (hrest : Stops rest)
    (room : Nat) (hroom : gs.length ≤ room) : ∃ d, groups true room (cs ++ rest) = ((gs, d), rest) ∧ (dotted = false → d = false) := by
  rcases h with ⟨rfl, rfl⟩ | hgs
  · refine ⟨false, groups_none (fun r hr => ?_) room, fun _ => rfl⟩
    rw [show r = rest from hr.symm]
    exact hrest.endsHex
  · exact ⟨dotted, groups_complete hgs hrest hroom, id⟩

theorem ipv6_sound {ip : Ipv6} (h : ipv6 s = some (ip, rest)) : ∃ cs, s = cs ++ rest ∧ ip.Literal cs := by
  unfold ipv6 at h
  obtain ⟨fs, dotted, s₁, hfront⟩ : ∃ fs dotted s₁, groups true 8 s = ((fs, dotted), s₁) := ⟨_, _, _, rfl⟩
  simp only [hfront] at h
  obtain ⟨front, hfs, hs, hlength⟩ := side_sound hfront
  split at h
  · rename_i height
    obtain ⟨ip', hip, hpair⟩ := Option.map_eq_some_iff.mp h
    cases hpair
    have hgroups := Ipv6.ofGroups?_eq_some_iff.mp hip
    rcases hfs with ⟨-, rfl⟩ | hgs
    · cases height
    · exact ⟨front, hs, .whole (hgroups ▸ hgs)⟩
  · rename_i height
    split at h
    · cases h
    · rename_i hdotted
      obtain rfl : dotted = false := by simpa using hdotted
      obtain ⟨⟨_, s₂⟩, h₂, htail⟩ := Option.bind_eq_some_iff.mp h
      obtain ⟨⟨_, s₃⟩, h₃, hlast⟩ := Option.bind_eq_some_iff.mp htail
      obtain rfl := char_eq_some_iff.mp h₂
      obtain rfl := char_eq_some_iff.mp h₃
      obtain ⟨bs, dotted, s₄, hback⟩ : ∃ bs dotted s₄, groups true (7 - fs.length) s₃ = ((bs, dotted), s₄) := ⟨_, _, _, rfl⟩
      simp only [hback] at hlast
      obtain ⟨back, hbs, rfl, hroom⟩ := side_sound hback
      obtain ⟨ip', hip, hpair⟩ := Option.bind_eq_some_iff.mp hlast
      cases hpair
      refine ⟨front ++ ':' :: ':' :: back, ?_, .elided hfs hbs (by omega) (Ipv6.ofGroups?_eq_some_iff.mp hip)⟩
      rw [hs, List.append_assoc, List.cons_append, List.cons_append]

theorem ipv6_complete {ip : Ipv6} {cs : List Char} (h : ip.Literal cs) (hrest : Stops rest) :
    ipv6 (cs ++ rest) = some (ip, rest) := by
  unfold ipv6
  cases h with
  | whole hgs =>
    have hread : groups true 8 (cs ++ rest) = _ := groups_complete hgs hrest (Nat.le_of_eq ip.length_eq)
    simp only [hread, if_pos ip.length_eq,
      Ipv6.ofGroups?_eq_some_iff.mpr rfl, Option.map_some]
  | @elided dotted front back fs bs hfront hback hlength hgroups =>
    obtain ⟨d, hfs, hd⟩ := side_complete hfront (stops_elision (back ++ rest)) 8 (by omega)
    obtain rfl := hd rfl
    obtain ⟨d', hbs, -⟩ := side_complete hback hrest (7 - fs.length) (by omega)
    rw [List.append_assoc, List.cons_append, List.cons_append]
    have hshort : fs.length ≠ 8 := by omega
    simp only [hfs, if_neg hshort, Bool.false_eq_true, if_false, Option.bind_eq_bind,
      char_eq_some_iff.mpr (rfl : ':' :: ':' :: (back ++ rest) = _), char_eq_some_iff.mpr (rfl : ':' :: (back ++ rest) = _),
      Option.bind_some, hbs, Ipv6.ofGroups?_eq_some_iff.mpr hgroups]
    rfl

end Reader

/-- A whole text is read as an address exactly if it is a form of it. -/
theorem Ipv6.parse?_eq_some_iff {ip : Ipv6} : Ipv6.parse? s = some ip ↔ ip.Literal s := by
  unfold Ipv6.parse?
  constructor
  · intro h
    split at h
    · rename_i ip' hread
      cases h
      obtain ⟨cs, rfl, hliteral⟩ := Reader.ipv6_sound hread
      rwa [List.append_nil]
    · cases h
  · intro h
    have hread := Reader.ipv6_complete h stops_nil
    rw [List.append_nil] at hread
    rw [hread]

/-! ## The text of an IPv6 address -/

theorem ofDigits_hex (n : Nat) :
    ∃ ds : List Nat, (Nat.toDigits 16 n).map Percent.hexValue? = ds.map some ∧ Reader.ofDigits 16 ds = n := by
  have digits : ∀ m ∈ List.range 16, Percent.hexValue? (Nat.digitChar m) = some m := by decide
  induction n using Nat.strongRecOn with
  | ind n ih =>
    rw [Nat.toDigits_eq_if (by decide)]
    split
    · rename_i hn
      refine ⟨[n], ?_, Nat.zero_add n⟩
      rw [List.map_singleton, digits n (List.mem_range.mpr hn)]
      rfl
    · rename_i hn
      obtain ⟨ds, hds, hvalue⟩ := ih (n / 16) (by omega)
      refine ⟨ds ++ [n % 16], ?_, ?_⟩
      · rw [List.map_append, hds, List.map_singleton, digits _ (List.mem_range.mpr (by omega)), List.map_append]
        rfl
      · rw [Reader.ofDigits, List.foldl_append]
        show Reader.ofDigits 16 ds * 16 + n % 16 = n
        omega

theorem isGroup_hex (g : UInt16) : IsGroup (Nat.toDigits 16 g.toNat) g :=
  ⟨Nat.toDigits_ne_nil, (Nat.length_toDigits_le_iff (by decide) (by decide)).mpr g.toNat_lt, ofDigits_hex g.toNat⟩

namespace Ipv6

theorem groups_groupsText : ∀ {gs : List UInt16}, gs ≠ [] → Groups false (groupsText gs).toList gs
  | [g], _ => by
    rw [groupsText, String.toList_intercalate]
    simpa using Groups.one (isGroup_hex g)
  | g :: h :: gs, _ => by
    have ih := Groups.cons (isGroup_hex g) (groups_groupsText (List.cons_ne_nil h gs))
    rw [groupsText, String.toList_intercalate] at ih ⊢
    simpa [List.intercalate_cons_cons] using ih

theorem side_groupsText (gs : List UInt16) : Side false (groupsText gs).toList gs := by
  by_cases h : gs = []
  · subst h
    exact Or.inl ⟨rfl, rfl⟩
  · exact Or.inr (groups_groupsText h)

theorem take_zeroRun : ∀ {gs : List UInt16} {k : Nat}, k ≤ zeroRun gs → gs.take k = List.replicate k 0
  | _, 0, _ => rfl
  | [], k + 1, h => by cases h
  | g :: gs, k + 1, h => by
    rw [zeroRun] at h
    split at h
    · rename_i hg
      rw [List.take_succ_cons, hg, take_zeroRun (Nat.le_of_succ_le_succ h), List.replicate_succ]
    · cases h

/-- What is found is a run of zeros. -/
theorem longestZeros_run (gs : List UInt16) : (longestZeros gs).2 ≤ zeroRun (gs.drop (longestZeros gs).1) := by
  suffices h : ∀ (is : List Nat) (best : Nat × Nat), best.2 ≤ zeroRun (gs.drop best.1) →
      (is.foldl (fun best i => if best.2 < zeroRun (gs.drop i) then (i, zeroRun (gs.drop i)) else best) best).2 ≤
        zeroRun (gs.drop (is.foldl
          (fun best i => if best.2 < zeroRun (gs.drop i) then (i, zeroRun (gs.drop i)) else best) best).1) from
    h _ (0, 0) (Nat.zero_le _)
  intro is
  induction is with
  | nil => intro best h; exact h
  | cons i is ih =>
    intro best hbest
    refine ih _ ?_
    dsimp only
    split
    · exact Nat.le_refl _
    · exact hbest

theorem literal_text (ip : Ipv6) : ip.Literal ip.text.toList := by
  have hlength := ip.length_eq
  obtain ⟨start, count, hlongest⟩ : ∃ start count, longestZeros ip.groups = (start, count) := ⟨_, _, rfl⟩
  have hle := longestZeros_le ip.groups
  have hrun := longestZeros_run ip.groups
  rw [hlongest] at hle hrun
  dsimp only at hle hrun
  unfold text
  rw [hlongest]
  dsimp only
  split
  · have hfront : (ip.groups.take start).length = start := by rw [List.length_take]; omega
    have hback : (ip.groups.drop (start + count)).length = 8 - start - count := by rw [List.length_drop]; omega
    rw [String.toList_append, String.toList_append, List.append_assoc]
    refine .elided (side_groupsText _) (side_groupsText _) (by omega) ?_
    rw [hfront, hback, show 8 - start - (8 - start - count) = count by omega, ← take_zeroRun hrun, List.append_assoc,
      ← List.drop_drop, List.take_append_drop, List.take_append_drop]
  · refine .whole (groups_groupsText ?_)
    intro hnil
    rw [hnil] at hlength
    cases hlength

/-- A mapped address is two groups behind five zeros and a mark. -/
theorem mapped?_eq_some {ip : Ipv6} {inner : Ipv4} (h : ip.mapped? = some inner) :
    ip.groups = [0, 0, 0, 0, 0, 0xFFFF] ++ inner.groups := by
  unfold mapped? at h
  split at h
  · rename_i g h' hgroups
    obtain rfl := Option.some.inj h
    have hbytes (n : Nat) : (UInt8.ofNat (n / 0x100)).toNat * 256 + (UInt8.ofNat n).toNat = n % 0x10000 := by
      simp only [UInt8.toNat_ofNat', Nat.reducePow]
      omega
    have hupper : (g.toNat * 0x10000 + h'.toNat) / 0x10000 % 0x10000 = g.toNat := by
      have hg := g.toNat_lt
      have hh := h'.toNat_lt
      omega
    have hlower : (g.toNat * 0x10000 + h'.toNat) % 0x10000 = h'.toNat := by
      have hh := h'.toNat_lt
      omega
    have hfirst := hbytes ((g.toNat * 0x10000 + h'.toNat) / 0x10000)
    rw [Nat.div_div_eq_div_mul, hupper] at hfirst
    rw [hgroups, Ipv4.ofNat, Ipv4.groups]
    dsimp only
    rw [hfirst, hbytes, hlower, UInt16.ofNat_toNat, UInt16.ofNat_toNat]
    rfl
  · cases h

theorem literal_mapped {ip : Ipv6} {inner : Ipv4} (h : ip.mapped? = some inner) :
    ip.Literal ("::ffff:" ++ inner.text).toList := by
  have hmark : IsGroup "ffff".toList 0xFFFF := ⟨by decide, by decide, [15, 15, 15, 15], by decide, by decide⟩
  have hgroups : ip.groups = [] ++ List.replicate (8 - 0 - 3) 0 ++ (0xFFFF :: inner.groups) := by
    rw [mapped?_eq_some h]
    rfl
  have hfront : Side false [] [] := Or.inl ⟨rfl, rfl⟩
  rw [String.toList_append]
  exact .elided hfront (Or.inr (.cons hmark (.embedded inner))) (by show 3 ≤ 7; omega) hgroups

end Ipv6

end NumberRegistry.Net
