import FeatureFlow.Proofs.Cuts
import FeatureFlow.Proofs.Utf8
import FeatureFlow.Text.Percent

/-! Texts in paths and queries. All but a few characters are written as escapes of their UTF-8
bytes, and decoding gives back what was written. An escaped text holds none of the marks by which
paths and queries are divided. -/
namespace FeatureFlow.Text

variable {c : Char} {cs w : List Char} {bs : List UInt8} {b : UInt8} {n : Nat} {plus : Bool}

/-- Letters, digits and four marks need no escape. -/
def isUnreserved (c : Char) : Bool := c.isAlphanum || c == '-' || c == '.' || c == '_' || c == '~'

/-- The digit for `n`, in either case. -/
def HexDigit (c : Char) (n : Nat) : Prop :=
  "0123456789ABCDEF".toList[n]? = some c ∨ "0123456789abcdef".toList[n]? = some c

/-- Each byte as a percent sign and two digits. -/
inductive EscapedBytes : List UInt8 → List Char → Prop where
  | nil : EscapedBytes [] []
  | cons {b : UInt8} {high low : Char} {bs : List UInt8} {w : List Char}
      (hhigh : HexDigit high (b.toNat / 16)) (hlow : HexDigit low (b.toNat % 16))
      (hrest : EscapedBytes bs w) : EscapedBytes (b :: bs) ('%' :: high :: low :: w)

/-- A text in its escaped form. In queries a plus sign may stand for a blank. -/
inductive Escaped (plus : Bool) : List Char → List Char → Prop where
  | nil : Escaped plus [] []
  | plain {c : Char} {cs w : List Char} (hc : isUnreserved c = true) (hrest : Escaped plus cs w) :
    Escaped plus (c :: cs) (c :: w)
  | escape {c : Char} {cs e w : List Char} (hc : isUnreserved c = false)
      (he : EscapedBytes (String.utf8EncodeChar c) e) (hrest : Escaped plus cs w) :
      Escaped plus (c :: cs) (e ++ w)
  | blank {cs w : List Char} (hplus : plus = true) (hrest : Escaped plus cs w) :
      Escaped plus (' ' :: cs) ('+' :: w)

theorem HexDigit.checked {p : Char → Nat → Bool}
    (hupper : ("0123456789ABCDEF".toList.zipIdx.all fun e => p e.1 e.2) = true)
    (hlower : ("0123456789abcdef".toList.zipIdx.all fun e => p e.1 e.2) = true) (h : HexDigit c n) :
    p c n = true := by
  rcases h with h | h
  · exact List.all_eq_true.mp hupper (c, n) (List.mem_zipIdx_iff_getElem?.mpr h)
  · exact List.all_eq_true.mp hlower (c, n) (List.mem_zipIdx_iff_getElem?.mpr h)

theorem HexDigit.value (h : HexDigit c n) : hexValue? c = some n := by
  have hvalue := h.checked (p := fun c n => hexValue? c == some n) (by decide +kernel)
    (by decide +kernel)
  exact eq_of_beq hvalue

theorem HexDigit.isUnreserved (h : HexDigit c n) : isUnreserved c = true :=
  h.checked (p := fun c _ => Text.isUnreserved c) (by decide +kernel) (by decide +kernel)

theorem exists_hexDigit (h : n < 16) : ∃ c, HexDigit c n := by
  have hlen : n < "0123456789ABCDEF".toList.length := h
  exact ⟨_, .inl (List.getElem?_eq_getElem hlen)⟩

/-- Each text can be escaped. -/
theorem exists_escapedBytes (bs : List UInt8) : ∃ w, EscapedBytes bs w := by
  induction bs with
  | nil => exact ⟨[], .nil⟩
  | cons b bs ih =>
    obtain ⟨w, hw⟩ := ih
    obtain ⟨high, hhigh⟩ := exists_hexDigit (n := b.toNat / 16) (by have := b.toNat_lt; omega)
    obtain ⟨low, hlow⟩ := exists_hexDigit (n := b.toNat % 16) (Nat.mod_lt _ (by decide))
    exact ⟨_, .cons hhigh hlow hw⟩

theorem exists_escaped (plus : Bool) (cs : List Char) : ∃ w, Escaped plus cs w := by
  induction cs with
  | nil => exact ⟨[], .nil⟩
  | cons c cs ih =>
    obtain ⟨w, hw⟩ := ih
    cases hc : isUnreserved c with
    | true => exact ⟨c :: w, .plain hc hw⟩
    | false =>
      obtain ⟨e, he⟩ := exists_escapedBytes (String.utf8EncodeChar c)
      exact ⟨e ++ w, .escape hc he hw⟩

theorem EscapedBytes.chars {e : List Char} (h : EscapedBytes bs e) :
    ∀ c ∈ e, isUnreserved c = true ∨ c = '%' := by
  induction h with
  | nil => exact fun _ hc => absurd hc List.not_mem_nil
  | cons hhigh hlow _ ih =>
    intro c hc
    rcases List.mem_cons.mp hc with rfl | hc
    · exact .inr rfl
    · rcases List.mem_cons.mp hc with rfl | hc
      · exact .inl hhigh.isUnreserved
      · rcases List.mem_cons.mp hc with rfl | hc
        · exact .inl hlow.isUnreserved
        · exact ih c hc

theorem Escaped.chars (h : Escaped plus cs w) :
    ∀ c ∈ w, isUnreserved c = true ∨ c = '%' ∨ plus = true ∧ c = '+' := by
  induction h with
  | nil => exact fun _ hc => absurd hc List.not_mem_nil
  | plain hplain _ ih => exact List.forall_mem_cons.mpr ⟨.inl hplain, ih⟩
  | escape _ he _ ih =>
    intro c hc
    rcases List.mem_append.mp hc with hc | hc
    · exact (he.chars c hc).imp_right .inl
    · exact ih c hc
  | blank hplus _ ih => exact List.forall_mem_cons.mpr ⟨.inr (.inr ⟨hplus, rfl⟩), ih⟩

theorem Escaped.not_mem (h : Escaped plus cs w) (hc : isUnreserved c = false) (hpercent : c ≠ '%')
    (hplus : c ≠ '+') :
    c ∉ w := by
  intro hmem
  rcases h.chars c hmem with hplain | heq | ⟨-, heq⟩
  · rw [hc] at hplain
    cases hplain
  · exact hpercent heq
  · exact hplus heq

theorem toNat_le_of_isAlphanum (h : c.isAlphanum = true) : c.toNat ≤ 0x7F := by
  have hbound {z : UInt32} (hz : z.toNat ≤ 0x7F) (hc : c.val ≤ z) : c.toNat ≤ 0x7F :=
    Nat.le_trans (UInt32.le_iff_toNat_le.mp hc) hz
  rcases Bool.or_eq_true_iff.mp h with hletter | hdigit
  · rcases Bool.or_eq_true_iff.mp hletter with hupper | hlower
    · exact hbound (by decide) (of_decide_eq_true hupper).2
    · exact hbound (by decide) (of_decide_eq_true (Bool.and_eq_true_iff.mp hlower).2)
  · exact hbound (by decide) (of_decide_eq_true (Bool.and_eq_true_iff.mp hdigit).2)

theorem toNat_le_of_isUnreserved (h : isUnreserved c = true) : c.toNat ≤ 0x7F := by
  simp only [isUnreserved, Bool.or_eq_true, beq_iff_eq] at h
  rcases h with (((h | rfl) | rfl) | rfl) | rfl
  · exact toNat_le_of_isAlphanum h
  all_goals decide

theorem ne_percent_of_isUnreserved (h : isUnreserved c = true) : c ≠ '%' := by
  rintro rfl
  exact absurd h (by decide)

theorem ne_plus_of_isUnreserved (h : isUnreserved c = true) : c ≠ '+' := by
  rintro rfl
  exact absurd h (by decide)

theorem encode_cons (c : Char) (cs : List Char) :
    encode (c :: cs) = String.utf8EncodeChar c ++ encode cs :=
  List.flatMap_cons

theorem encode_cons_ascii (h : c.toNat ≤ 0x7F) (cs : List Char) :
    encode (c :: cs) = UInt8.ofNat c.toNat :: encode cs := by
  rw [encode_cons, utf8EncodeChar_ascii h, List.singleton_append]

theorem ofNat_byte (h : c.toNat ≤ 0x7F) : Char.ofNat (UInt8.ofNat c.toNat).toNat = c := by
  rw [UInt8.toNat_ofNat_of_lt' (show _ < 256 by omega), Char.ofNat_toNat]

theorem unescape_cons_of_ne (h : b ≠ 0x25) (bs : List UInt8) :
    unescape (b :: bs) = b :: unescape bs := by
  cases bs with
  | nil => rfl
  | cons first bs =>
    cases bs with
    | nil => rfl
    | cons second bs => rw [unescape, if_neg h]

theorem unescape_cons_plain (h : c.toNat ≤ 0x7F) (hne : c ≠ '%') (cs : List Char) :
    unescape (encode (c :: cs)) = String.utf8EncodeChar c ++ unescape (encode cs) := by
  have hb : UInt8.ofNat c.toNat ≠ 0x25 := by
    intro heq
    apply hne
    rw [← ofNat_byte h, heq]
    rfl
  rw [encode_cons_ascii h, unescape_cons_of_ne hb, utf8EncodeChar_ascii h, List.singleton_append]

theorem HexDigit.hexByte? {high low : Char} (hhigh : HexDigit high (b.toNat / 16))
    (hlow : HexDigit low (b.toNat % 16)) :
    hexByte? (UInt8.ofNat high.toNat) (UInt8.ofNat low.toNat) = some b := by
  have hbyte : 16 * (b.toNat / 16) + b.toNat % 16 = b.toNat := Nat.div_add_mod ..
  rw [Text.hexByte?, ofNat_byte (toNat_le_of_isUnreserved hhigh.isUnreserved),
    ofNat_byte (toNat_le_of_isUnreserved hlow.isUnreserved), hhigh.value, hlow.value]
  simp only [Option.bind_eq_bind, Option.bind_some, hbyte, UInt8.ofNat_toNat]
  rfl

theorem EscapedBytes.unescape {e : List Char} (h : EscapedBytes bs e) (rest : List Char) :
    unescape (encode (e ++ rest)) = bs ++ unescape (encode rest) := by
  induction h with
  | nil => rfl
  | @cons b high low bs w hhigh hlow _ ih =>
    have hpercent : UInt8.ofNat '%'.toNat = 0x25 := by decide
    have hbyte := hhigh.hexByte? hlow
    rw [List.cons_append, List.cons_append, List.cons_append, encode_cons_ascii (by decide),
      encode_cons_ascii (toNat_le_of_isUnreserved hhigh.isUnreserved),
      encode_cons_ascii (toNat_le_of_isUnreserved hlow.isUnreserved), Text.unescape,
        if_pos hpercent, hbyte]
    exact congrArg _ ih

/-- A plus sign is read as a blank. -/
def blankForPlus (c : Char) : Char := if c = '+' then ' ' else c

theorem map_blankForPlus (h : '+' ∉ w) : w.map blankForPlus = w := by
  conv => rhs; rw [← List.map_id w]
  apply List.map_congr_left
  intro c hc
  refine if_neg ?_
  rintro rfl
  exact h hc

theorem Escaped.unescape (h : Escaped plus cs w) :
    unescape (encode (w.map blankForPlus)) = encode cs := by
  induction h with
  | nil => rfl
  | plain hc _ ih =>
    rw [List.map_cons, blankForPlus, if_neg (ne_plus_of_isUnreserved hc),
      unescape_cons_plain (toNat_le_of_isUnreserved hc) (ne_percent_of_isUnreserved hc), ih,
        encode_cons]
  | escape _ he _ ih =>
    have hplus : '+' ∉ _ := fun hmem => absurd (he.chars '+' hmem) (by decide +kernel)
    rw [List.map_append, map_blankForPlus hplus, he.unescape, ih, encode_cons]
  | blank _ _ ih =>
    rw [List.map_cons, blankForPlus, if_pos rfl, unescape_cons_plain (by decide) (by decide), ih,
      encode_cons]

theorem Escaped.percentDecode_map (h : Escaped plus cs w) :
    percentDecode (w.map blankForPlus) = cs := by
  rw [percentDecode, h.unescape, decode?_encode]
  rfl

/-- What is escaped without plus signs is decoded as it stands. -/
theorem Escaped.percentDecode (h : Escaped false cs w) : percentDecode w = cs := by
  have hplus : '+' ∉ w := by
    intro hmem
    rcases h.chars '+' hmem with hplain | heq | ⟨hfalse, -⟩
    · exact ne_plus_of_isUnreserved hplain rfl
    · exact absurd heq (by decide)
    · cases hfalse
  have hdecode := h.percentDecode_map
  rwa [map_blankForPlus hplus] at hdecode

theorem Escaped.ne_nil (h : Escaped plus cs w) (hne : cs ≠ []) : w ≠ [] := by
  rintro rfl
  have hdecode := h.percentDecode_map
  rw [List.map_nil, Text.percentDecode, encode, List.flatMap_nil, Text.unescape, decode?,
    scan] at hdecode
  exact hne hdecode.symm

/-- The parts in their order, with at least one separator between two of them and maybe some around
them. -/
inductive Separated (sep : Char) : List (List Char) → List Char → Prop where
  | nil : Separated sep [] []
  | last (part : List Char) : Separated sep [part] part
  | cons (part : List Char) {parts : List (List Char)} {rest : List Char}
      (hrest : Separated sep parts rest) :
    Separated sep (part :: parts) (part ++ sep :: rest)
  | gap {parts : List (List Char)} {rest : List Char} (hrest : Separated sep parts rest) :
    Separated sep parts (sep :: rest)

theorem Separated.filter_splitOn {sep : Char} {parts : List (List Char)}
    (h : Separated sep parts cs) (hne : ∀ part ∈ parts, part ≠ [])
    (hsep : ∀ part ∈ parts, sep ∉ part) :
    (cs.splitOn sep).filter (· ≠ []) = parts := by
  induction h with
  | nil => rfl
  | last part =>
    rw [List.splitOn_eq_singleton (hsep part List.mem_cons_self)]
    simp [hne part List.mem_cons_self]
  | cons part _ ih =>
    obtain ⟨hpart, hparts⟩ := List.forall_mem_cons.mp hne
    obtain ⟨hfree, hfrees⟩ := List.forall_mem_cons.mp hsep
    rw [List.splitOn_append_cons_self_of_not_mem hfree, List.filter_cons, ih hparts hfrees]
    simp [hpart]
  | gap _ ih =>
    rw [List.splitOn_cons_eq_if_modifyHead, if_pos (by simp), List.filter_cons]
    exact ih hne hsep

theorem Separated.not_mem {sep : Char} {parts : List (List Char)} (h : Separated sep parts cs)
    (hc : c ≠ sep) (hparts : ∀ part ∈ parts, c ∉ part) : c ∉ cs := by
  induction h with
  | nil => exact List.not_mem_nil
  | last part => exact hparts part List.mem_cons_self
  | cons part _ ih =>
    obtain ⟨hpart, hrest⟩ := List.forall_mem_cons.mp hparts
    intro hmem
    rcases List.mem_append.mp hmem with hmem | hmem
    · exact hpart hmem
    · exact (List.mem_cons.mp hmem).elim hc (ih hrest)
  | gap _ ih =>
    intro hmem
    exact (List.mem_cons.mp hmem).elim hc (ih hparts)

end FeatureFlow.Text
