/-
  NumberRegistry.Proofs.Url.Segments — encoding a second time changes nothing.

  What was encoded holds no character that is encoded (`encoded_encodeText`), so it is
  encoded as it stands (`encodeText_encoded`). A path that was read is read again: its
  segments have no slash in them, and none of them is a dot segment, since no dot comes
  out of an encoded character (`not_dots_encodeText`). So segments are what is read from
  them (`segments_text`).
-/
import NumberRegistry.Proofs.Http.Form
import NumberRegistry.Proofs.Text.Parts
import NumberRegistry.Proofs.Text.Utf8
import NumberRegistry.Url.Resolve

namespace NumberRegistry.Url

open Text

/-! ## Encoded texts -/

/-- No character of the text would be encoded. -/
def Encoded (reserved : Char → Bool) (s : List Char) : Prop := ∀ c ∈ s, reserved c = false

/-- The sets of characters that the parts of a URL encode. -/
inductive Reserves : (Char → Bool) → Prop
  | path : Reserves inPath
  | query (special : Bool) : Reserves (inQuery special)
  | fragment : Reserves inFragment
  | userinfo : Reserves inUserinfo

theorem isAlphanum_ascii {c : Char} (h : c.isAlphanum = true) : c.toNat < 128 := by
  have hle {d : Char} (hd : c.val ≤ d.val) : c.toNat ≤ d.toNat := UInt32.le_iff_toNat_le.mp hd
  unfold Char.isAlphanum Char.isAlpha Char.isUpper Char.isLower Char.isDigit at h
  simp only [Bool.or_eq_true, Bool.and_eq_true, decide_eq_true_eq] at h
  rcases h with (h | h) | h
  · exact Nat.lt_of_le_of_lt (hle (d := 'Z') h.2) (by decide)
  · exact Nat.lt_of_le_of_lt (hle (d := 'z') h.2) (by decide)
  · exact Nat.lt_of_le_of_lt (hle (d := '9') h.2) (by decide)

theorem isPlain_ascii {c : Char} (h : Http.Form.isPlain c = true) : c.toNat < 128 := by
  simp only [Http.Form.isPlain, Bool.or_eq_true, beq_iff_eq] at h
  rcases h with (((h | rfl) | rfl) | rfl) | rfl
  · exact isAlphanum_ascii h
  all_goals decide

/-- No set has the characters that bytes are encoded with. -/
theorem Reserves.plain {reserved : Char → Bool} (h : Reserves reserved) {c : Char}
    (hc : c = '%' ∨ Http.Form.isPlain c = true) : reserved c = false := by
  have all : ∀ n ∈ List.range 128, Char.ofNat n = '%' ∨ Http.Form.isPlain (Char.ofNat n) = true →
      inPath (Char.ofNat n) = false ∧ (∀ special, inQuery special (Char.ofNat n) = false) ∧ inFragment (Char.ofNat n) = false ∧
        inUserinfo (Char.ofNat n) = false := by decide +kernel
  have hascii : c.toNat < 128 := by
    rcases hc with rfl | hc
    · decide
    · exact isPlain_ascii hc
  have hfree := all c.toNat (List.mem_range.mpr hascii) (by rwa [Char.ofNat_toNat])
  rw [Char.ofNat_toNat] at hfree
  cases h
  · exact hfree.1
  · exact hfree.2.1 _
  · exact hfree.2.2.1
  · exact hfree.2.2.2

/-- Every set has what cannot be seen. -/
theorem Reserves.visible {reserved : Char → Bool} (h : Reserves reserved) {c : Char} (hc : reserved c = false) :
    0x20 < c.toNat ∧ c.toNat < 0x7F := by
  have hcontrol : isControl c = false ∧ (c == ' ') = false := by
    cases h <;> simp only [inUserinfo, inPath, inQuery, inFragment, Bool.or_eq_false_iff] at hc <;> simp only [hc, and_self]
  have hspace : c.toNat ≠ 0x20 := fun hnat => by
    have : c = ' ' := Char.toNat_inj.mp hnat
    simp [this] at hcontrol
  simp only [isControl, Bool.or_eq_false_iff, decide_eq_false_iff_not] at hcontrol
  omega

/-- What was encoded is encoded. -/
theorem encoded_encodeText {reserved : Char → Bool} (h : Reserves reserved) (s : List Char) :
    Encoded reserved (encodeText reserved s).toList := by
  intro c hc
  rw [encodeText, String.toList_ofList] at hc
  obtain ⟨d, -, hc⟩ := List.mem_flatMap.mp hc
  unfold Percent.encodeChar at hc
  split at hc
  · obtain ⟨b, -, hc⟩ := List.mem_flatMap.mp hc
    exact h.plain (Http.Form.mem_encodeByte hc)
  · rename_i hfree
    rw [List.mem_singleton.mp hc]
    simpa using hfree

theorem encode_encoded {reserved : Char → Bool} {s : List Char} (h : Encoded reserved s) : Percent.encode reserved s = s := by
  induction s with
  | nil => rfl
  | cons c s ih =>
    have hc : reserved c = false := h c List.mem_cons_self
    rw [Percent.encode, List.flatMap_cons, Percent.encodeChar, if_neg (by simp [hc])]
    exact congrArg (c :: ·) (ih fun d hd => h d (List.mem_cons_of_mem c hd))

theorem encodeText_encoded {reserved : Char → Bool} {t : String} (h : Encoded reserved t.toList) :
    encodeText reserved t.toList = t := by
  rw [encodeText, encode_encoded h, String.ofList_toList]

/-- Every character leaves something. -/
theorem encodeText_ne_empty {reserved : Char → Bool} {s : List Char} (h : s ≠ []) : encodeText reserved s ≠ "" := by
  intro hempty
  have hnil := congrArg String.toList hempty
  rw [encodeText, String.toList_ofList] at hnil
  cases s with
  | nil => exact h rfl
  | cons c s =>
    obtain ⟨hchar, -⟩ := List.append_eq_nil_iff.mp hnil
    unfold Percent.encodeChar at hchar
    split at hchar
    · obtain ⟨b, bs, hbytes, -⟩ := Utf8.front_encodeChar c []
      rw [hbytes] at hchar
      cases hchar
    · cases hchar

/-! ## Dot segments -/

/-- Every percent sign stands in front of `2e`. -/
def onlyDots : List Char → Bool
  | [] => true
  | c :: cs => (c != '%' || cs.take 2 == ['2', 'e']) && onlyDots cs

theorem onlyDots_append {a b : List Char} (h : onlyDots (a ++ b) = true) : onlyDots b = true := by
  induction a with
  | nil => exact h
  | cons c a ih =>
    rw [List.cons_append, onlyDots, Bool.and_eq_true] at h
    exact ih h.2

theorem onlyDots_of_dot {s : List Char} (h : isDot s = true ∨ isDotDot s = true) : onlyDots (s.map Char.toLower) = true := by
  rcases h with h | h
  · simp only [isDot, Bool.or_eq_true, beq_iff_eq] at h
    rcases h with rfl | h
    · decide
    · rw [h]
      decide
  · have all : ["..", ".%2e", "%2e.", "%2e%2e"].all (fun t => onlyDots t.toList) = true := by decide
    have hmem := List.all_eq_true.mp all _ (List.contains_iff_mem.mp h)
    rwa [String.toList_ofList] at hmem

/-- No character that is encoded comes out as a dot. -/
theorem not_encodeByte_dot {b : UInt8} (h : b.toNat ≠ 0x2E) (cs : List Char) :
    onlyDots ((Percent.encodeByte b ++ cs).map Char.toLower) = false := by
  have hb : b.toNat < 256 := b.toNat_lt
  have all : ∀ n ∈ List.range 256, n ≠ 0x2E →
      ¬ ((Percent.hexDigit (n / 16)).toLower = '2' ∧ (Percent.hexDigit (n % 16)).toLower = 'e') := by decide +kernel
  have hne := all b.toNat (List.mem_range.mpr hb) h
  show (((Char.toLower '%' != '%') || [(Percent.hexDigit (b.toNat / 16)).toLower, (Percent.hexDigit (b.toNat % 16)).toLower] ==
    ['2', 'e']) && _) = false
  rw [Bool.and_eq_false_iff, Bool.or_eq_false_iff]
  left
  refine ⟨rfl, ?_⟩
  rw [beq_eq_false_iff_ne]
  intro heq
  simp only [List.cons.injEq, and_true] at heq
  exact hne heq

theorem not_encodeChar_dot {c : Char} (h : c ≠ '.') (cs : List Char) :
    onlyDots (((String.utf8EncodeChar c).flatMap Percent.encodeByte ++ cs).map Char.toLower) = false := by
  obtain ⟨b, bs, hbytes, hfront⟩ := Utf8.front_encodeChar c []
  have hb : b.toNat ≠ 0x2E := by
    intro hb
    rw [Utf8.front, hb] at hfront
    exact h (Utf8.Front.char.inj hfront).1.symm
  rw [hbytes, List.flatMap_cons, List.append_assoc]
  exact not_encodeByte_dot hb _

/-- What is encoded is no dot segment if it was none before. -/
theorem not_dots_encodeText {s : List Char} (hdot : isDot s = false) (hdots : isDotDot s = false) :
    isDot (encodeText inPath s).toList = false ∧ isDotDot (encodeText inPath s).toList = false := by
  rw [encodeText, String.toList_ofList]
  by_cases hs : Encoded inPath s
  · rw [encode_encoded hs]
    exact ⟨hdot, hdots⟩
  · have hencoded : onlyDots ((Percent.encode inPath s).map Char.toLower) = false := by
      simp only [Encoded, Classical.not_forall, Bool.not_eq_false] at hs
      obtain ⟨c, hc, hreserved⟩ := hs
      obtain ⟨a, b, rfl⟩ := List.append_of_mem hc
      have hne : c ≠ '.' := by
        rintro rfl
        exact absurd hreserved (by decide)
      cases honly : onlyDots ((Percent.encode inPath (a ++ c :: b)).map Char.toLower) with
      | false => rfl
      | true =>
        rw [Percent.encode, List.flatMap_append, List.flatMap_cons, Percent.encodeChar, if_pos hreserved, List.map_append] at honly
        rw [← onlyDots_append honly, not_encodeChar_dot hne]
    have hneither : ¬ (isDot (Percent.encode inPath s) = true ∨ isDotDot (Percent.encode inPath s) = true) := by
      intro h
      rw [onlyDots_of_dot h] at hencoded
      cases hencoded
    rw [not_or, Bool.not_eq_true, Bool.not_eq_true] at hneither
    exact hneither

/-! ## Segments -/

/-- A segment as reading leaves it. -/
structure Segment (t : String) : Prop where
  encoded : Encoded inPath t.toList
  slash : ∀ c ∈ t.toList, isSlash true c = false
  dot : isDot t.toList = false
  dots : isDotDot t.toList = false

theorem segment_nil : Segment "" := ⟨nofun, nofun, by decide, by decide⟩

theorem segment_encodeText {s : List Char} (hslash : ∀ c ∈ s, isSlash true c = false) (hdot : isDot s = false)
    (hdots : isDotDot s = false) : Segment (encodeText inPath s) := by
  have hno := not_dots_encodeText hdot hdots
  refine ⟨encoded_encodeText .path s, fun c hc => ?_, hno.1, hno.2⟩
  rw [encodeText, String.toList_ofList] at hc
  obtain ⟨d, hd, hc⟩ := List.mem_flatMap.mp hc
  unfold Percent.encodeChar at hc
  split at hc
  · obtain ⟨b, -, hc⟩ := List.mem_flatMap.mp hc
    rcases Http.Form.mem_encodeByte hc with rfl | hplain
    · decide
    · simp only [isSlash, Bool.true_and, Bool.or_eq_false_iff, beq_eq_false_iff_ne]
      exact ⟨Http.Form.ne_of_isPlain hplain (by decide), Http.Form.ne_of_isPlain hplain (by decide)⟩
  · rw [List.mem_singleton.mp hc]
    exact hslash d hd

theorem splitSegments_slash {special : Bool} {s : List Char} : ∀ p ∈ splitSegments special s, ∀ c ∈ p, isSlash special c = false := by
  induction s with
  | nil => simp [splitSegments]
  | cons c s ih =>
    unfold splitSegments
    by_cases hc : isSlash special c = true
    · rw [if_pos hc]
      exact List.forall_mem_cons.mpr ⟨nofun, ih⟩
    · rw [if_neg hc]
      split
      · rename_i w ws hws
        rw [hws, List.forall_mem_cons] at ih
        exact List.forall_mem_cons.mpr ⟨List.forall_mem_cons.mpr ⟨by simpa using hc, ih.1⟩, ih.2⟩
      · simpa using hc

theorem splitSegments_ne_nil (special : Bool) (s : List Char) : splitSegments special s ≠ [] := by
  cases s with
  | nil => simp [splitSegments]
  | cons c s =>
    unfold splitSegments
    split
    · simp
    · split <;> simp

/-- Going along segments leaves segments, at least one if there was one to go along. -/
theorem segments_resolveDots {done : List String} {ss : List (List Char)} (hdone : ∀ t ∈ done, Segment t)
    (hss : ∀ s ∈ ss, ∀ c ∈ s, isSlash true c = false) :
    (∀ t ∈ resolveDots done ss, Segment t) ∧ (ss ≠ [] ∨ done ≠ [] → resolveDots done ss ≠ []) := by
  have hshorter {done : List String} (h : ∀ t ∈ done, Segment t) : ∀ t ∈ done.dropLast, Segment t :=
    fun t ht => h t ((List.dropLast_sublist done).mem ht)
  have hsnoc {done : List String} {t : String} (h : ∀ t ∈ done, Segment t) (ht : Segment t) : ∀ u ∈ done ++ [t], Segment u :=
    List.forall_mem_append.mpr ⟨h, List.forall_mem_singleton.mpr ht⟩
  fun_induction resolveDots done ss with
  | case1 done => exact ⟨hdone, fun h => h.resolve_left (fun h => h rfl)⟩
  | case2 done s hs => exact ⟨hsnoc (hshorter hdone) segment_nil, fun _ => by simp⟩
  | case3 done s rest hs hrest ih =>
    obtain ⟨hall, hne⟩ := ih (hshorter hdone) fun t ht => hss t (List.mem_cons_of_mem s ht)
    exact ⟨hall, fun _ => hne (Or.inl hrest)⟩
  | case4 done s hs hdot => exact ⟨hsnoc hdone segment_nil, fun _ => by simp⟩
  | case5 done s rest hs hdot hrest ih =>
    obtain ⟨hall, hne⟩ := ih hdone fun t ht => hss t (List.mem_cons_of_mem s ht)
    exact ⟨hall, fun _ => hne (Or.inl hrest)⟩
  | case6 done s rest hs hdot ih =>
    have hsegment := segment_encodeText (hss s List.mem_cons_self) (by simpa using hdot) (by simpa using hs)
    obtain ⟨hall, hne⟩ := ih (hsnoc hdone hsegment) fun t ht => hss t (List.mem_cons_of_mem s ht)
    exact ⟨hall, fun _ => hne (Or.inr (by simp))⟩

theorem segments_sound (s : List Char) : (∀ t ∈ segments true s, Segment t) ∧ segments true s ≠ [] := by
  have h := @segments_resolveDots [] _ nofun (@splitSegments_slash true s)
  exact ⟨h.1, h.2 (Or.inl (splitSegments_ne_nil true s))⟩

theorem splitSegments_append {s : List Char} (h : ∀ c ∈ s, isSlash true c = false) (rest : List Char) :
    splitSegments true (s ++ '/' :: rest) = s :: splitSegments true rest := by
  induction s with
  | nil => rfl
  | cons c s ih =>
    have hc : isSlash true c = false := h c List.mem_cons_self
    rw [List.cons_append, splitSegments, if_neg (by simp [hc]), ih fun d hd => h d (List.mem_cons_of_mem c hd)]

theorem splitSegments_of_not_slash {s : List Char} (h : ∀ c ∈ s, isSlash true c = false) : splitSegments true s = [s] := by
  induction s with
  | nil => rfl
  | cons c s ih =>
    have hc : isSlash true c = false := h c List.mem_cons_self
    rw [splitSegments, if_neg (by simp [hc]), ih fun d hd => h d (List.mem_cons_of_mem c hd)]

theorem toList_rooted_cons (t : String) (ts : List String) :
    (Path.rooted (t :: ts)).text.toList = '/' :: (t.toList ++ (Path.rooted ts).text.toList) := by
  simp [Path.text, String.toList_join]

theorem splitSegments_text {t : String} {ts : List String} (h : ∀ u ∈ t :: ts, ∀ c ∈ u.toList, isSlash true c = false) :
    splitSegments true (t.toList ++ (Path.rooted ts).text.toList) = (t :: ts).map String.toList := by
  induction ts generalizing t with
  | nil =>
    have ht := h t List.mem_cons_self
    show splitSegments true (t.toList ++ []) = [t.toList]
    rw [List.append_nil, splitSegments_of_not_slash ht]
  | cons u ts ih =>
    rw [toList_rooted_cons, splitSegments_append (h t List.mem_cons_self), ih fun v hv => h v (List.mem_cons_of_mem t hv)]
    rfl

theorem resolveDots_segments {ts : List String} (h : ∀ t ∈ ts, Segment t) (done : List String) :
    resolveDots done (ts.map String.toList) = done ++ ts := by
  induction ts generalizing done with
  | nil => simp [resolveDots]
  | cons t ts ih =>
    have ht := h t List.mem_cons_self
    rw [List.map_cons, resolveDots, if_neg (by simp [ht.dots]), if_neg (by simp [ht.dot]), encodeText_encoded ht.encoded,
      ih fun u hu => h u (List.mem_cons_of_mem t hu), List.append_assoc]
    rfl

/-- Segments are what is read from them. -/
theorem segments_text {ts : List String} (h : ∀ t ∈ ts, Segment t) (hne : ts ≠ []) :
    authorityPath true (Path.rooted ts).text.toList = .rooted ts := by
  cases ts with
  | nil => exact absurd rfl hne
  | cons t ts =>
    rw [toList_rooted_cons]
    show Path.rooted (segments true (t.toList ++ (Path.rooted ts).text.toList)) = .rooted (t :: ts)
    rw [segments, splitSegments_text fun u hu => (h u hu).slash, resolveDots_segments h]
    rfl

end NumberRegistry.Url
