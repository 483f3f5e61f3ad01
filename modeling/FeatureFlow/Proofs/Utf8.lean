import FeatureFlow.Text.Utf8

/-! UTF-8 read back: the bytes of a text give the text, since each character's lead byte tells how
many bytes follow and the bounds for the second of them let every character through. -/
namespace FeatureFlow.Text

variable {b lead low high : UInt8} {bs tail : List UInt8} {c : Char}

theorem continuation_cons (hlow : low ≤ b) (hhigh : b ≤ high) (n : Nat) (bs : List UInt8) :
    continuation (n + 1) low high (b :: bs) =
      (b :: (continuation n 0x80 0xBF bs).1, (continuation n 0x80 0xBF bs).2) := by
  rw [continuation, if_pos ⟨hlow, hhigh⟩]

theorem continuation_append (h : ∀ b ∈ tail, 0x80 ≤ b ∧ b ≤ 0xBF) (bs : List UInt8) :
    continuation tail.length 0x80 0xBF (tail ++ bs) = (tail, bs) := by
  induction tail with
  | nil => rfl
  | cons b tail ih =>
    obtain ⟨⟨hlow, hhigh⟩, htail⟩ := List.forall_mem_cons.mp h
    rw [List.length_cons, List.cons_append, continuation_cons hlow hhigh, ih htail]

theorem scan_ascii (h : b < 0x80) (bs : List UInt8) :
    scan (b :: bs) = some (Char.ofNat b.toNat) :: scan bs := by
  rw [scan, if_pos h]

/-- A lead byte with the bytes it asks for is one character. -/
theorem scan_sequence (hlead : 0x80 ≤ lead.toNat) (tail : List UInt8)
    (hf : followers lead = some (tail.length + 1, low, high)) (hlow : low ≤ b) (hhigh : b ≤ high)
    (htail : ∀ b ∈ tail, 0x80 ≤ b ∧ b ≤ 0xBF) {v : Nat} (hv : codePoint lead (b :: tail) = v)
    (bs : List UInt8) :
    scan (lead :: b :: (tail ++ bs)) = some (Char.ofNat v) :: scan bs := by
  have hread : continuation (tail.length + 1) low high (b :: (tail ++ bs)) = (b :: tail, bs) := by
    rw [continuation_cons hlow hhigh, continuation_append htail]
  have hnot : ¬ lead < 0x80 := UInt8.not_lt.mpr (UInt8.le_iff_toNat_le.mpr hlead)
  rw [scan, if_neg hnot]
  simp only [hf, hread]
  rw [List.length_cons, if_pos rfl, hv]

theorem not_le_of_toNat_lt (h : high.toNat < b.toNat) : ¬ b ≤ high :=
  fun hle => Nat.not_le.mpr h (UInt8.le_iff_toNat_le.mp hle)

theorem followers_two (hlow : 0xC2 ≤ lead.toNat) (hhigh : lead.toNat ≤ 0xDF) :
    followers lead = some (1, 0x80, 0xBF) := by
  have h₁ : ¬ lead < 0xC2 := UInt8.not_lt.mpr (UInt8.le_iff_toNat_le.mpr hlow)
  have h₂ : lead ≤ 0xDF := UInt8.le_iff_toNat_le.mpr hhigh
  rw [followers, if_neg h₁, if_pos h₂]

/-- The second of three bytes keeps the character above those of two bytes, and out of the
surrogates. -/
theorem followers_three (hlow : 0xE0 ≤ lead.toNat) (hhigh : lead.toNat ≤ 0xEF) :
    followers lead = some (2, if lead = 0xE0 then 0xA0 else 0x80,
      if lead = 0xED then 0x9F else 0xBF) := by
  have h₁ : ¬ lead < 0xC2 := UInt8.not_lt.mpr (UInt8.le_iff_toNat_le.mpr
    (Nat.le_trans (by decide) hlow))
  have h₂ : ¬ lead ≤ 0xDF := not_le_of_toNat_lt (Nat.lt_of_lt_of_le (by decide) hlow)
  have h₃ : lead ≤ 0xEF := UInt8.le_iff_toNat_le.mpr hhigh
  rw [followers, if_neg h₁, if_neg h₂]
  by_cases hfirst : lead = 0xE0
  · subst hfirst
    rfl
  · by_cases hsurrogate : lead = 0xED
    · subst hsurrogate
      rfl
    · rw [if_neg hfirst, if_neg hsurrogate, if_pos h₃, if_neg hfirst, if_neg hsurrogate]

/-- The second of four bytes keeps the character above those of three bytes, and within the code
points. -/
theorem followers_four (hlow : 0xF0 ≤ lead.toNat) (hhigh : lead.toNat ≤ 0xF4) :
    followers lead = some (3, if lead = 0xF0 then 0x90 else 0x80,
      if lead = 0xF4 then 0x8F else 0xBF) := by
  by_cases hfirst : lead = 0xF0
  · subst hfirst
    rfl
  · by_cases hlast : lead = 0xF4
    · subst hlast
      rfl
    · have hne : lead.toNat ≠ 0xF4 := fun h => hlast (UInt8.toNat_inj.mp h)
      have h₁ : ¬ lead < 0xC2 := UInt8.not_lt.mpr (UInt8.le_iff_toNat_le.mpr
        (Nat.le_trans (by decide) hlow))
      have h₂ : ¬ lead ≤ 0xDF := not_le_of_toNat_lt (Nat.lt_of_lt_of_le (by decide) hlow)
      have h₃ : ¬ lead ≤ 0xEF := not_le_of_toNat_lt (Nat.lt_of_lt_of_le (by decide) hlow)
      have h₄ : lead ≠ 0xE0 := fun h => h₃ (h ▸ by decide)
      have h₅ : lead ≠ 0xED := fun h => h₃ (h ▸ by decide)
      have h₆ : lead ≤ 0xF3 := UInt8.le_iff_toNat_le.mpr (by change lead.toNat ≤ 0xF3; omega)
      rw [followers, if_neg h₁, if_neg h₂, if_neg h₄, if_neg h₅, if_neg h₃, if_neg hfirst,
        if_pos h₆,
        if_neg hfirst, if_neg hlast]

theorem utf8EncodeChar_eq (c : Char) : String.utf8EncodeChar c =
    if c.toNat ≤ 0x7F then [UInt8.ofNat c.toNat]
    else if c.toNat ≤ 0x7FF then [UInt8.ofNat (c.toNat / 64 % 32 + 192),
      UInt8.ofNat (c.toNat % 64 + 128)]
    else if c.toNat ≤ 0xFFFF then
      [UInt8.ofNat (c.toNat / 4096 % 16 + 224), UInt8.ofNat (c.toNat / 64 % 64 + 128),
        UInt8.ofNat (c.toNat % 64 + 128)]
    else
      [UInt8.ofNat (c.toNat / 262144 % 8 + 240), UInt8.ofNat (c.toNat / 4096 % 64 + 128),
        UInt8.ofNat (c.toNat / 64 % 64 + 128), UInt8.ofNat (c.toNat % 64 + 128)] := rfl

theorem codePoint_two (lead b₁ : UInt8) :
    codePoint lead [b₁] = 64 * (lead.toNat % 32) + b₁.toNat % 64 := rfl

theorem codePoint_three (lead b₁ b₂ : UInt8) :
    codePoint lead [b₁, b₂] = 64 * (64 * (lead.toNat % 16) + b₁.toNat % 64) + b₂.toNat % 64 := rfl

theorem codePoint_four (lead b₁ b₂ b₃ : UInt8) : codePoint lead [b₁, b₂, b₃] =
    64 * (64 * (64 * (lead.toNat % 8) + b₁.toNat % 64) + b₂.toNat % 64) + b₃.toNat % 64 := rfl

theorem continues (n : Nat) :
    0x80 ≤ UInt8.ofNat (n % 64 + 128) ∧ UInt8.ofNat (n % 64 + 128) ≤ 0xBF := by
  have hb : (UInt8.ofNat (n % 64 + 128)).toNat = n % 64 + 128 :=
    UInt8.toNat_ofNat_of_lt' (show _ < 256 by omega)
  constructor
  · refine UInt8.le_iff_toNat_le.mpr ?_
    change 128 ≤ _
    omega
  · refine UInt8.le_iff_toNat_le.mpr ?_
    change _ ≤ 191
    omega

section

variable {v : Nat}

theorem scan_two (hlow : 0x7F < v) (hhigh : v ≤ 0x7FF) (bs : List UInt8) :
    scan (UInt8.ofNat (v / 64 % 32 + 192) :: UInt8.ofNat (v % 64 + 128) :: bs) =
      some (Char.ofNat v) :: scan bs := by
  have hlead : (UInt8.ofNat (v / 64 % 32 + 192)).toNat = v / 64 % 32 + 192 :=
    UInt8.toNat_ofNat_of_lt' (show _ < 256 by omega)
  have hlast : (UInt8.ofNat (v % 64 + 128)).toNat = v % 64 + 128 :=
    UInt8.toNat_ofNat_of_lt' (show _ < 256 by omega)
  refine scan_sequence (by omega) [] (followers_two (by omega) (by omega)) (continues v).1
    (continues v).2 ?_ ?_ bs
  · exact fun _ h => absurd h List.not_mem_nil
  · rw [codePoint_two, hlead, hlast]
    omega

theorem scan_three (hlow : 0x7FF < v) (hhigh : v ≤ 0xFFFF) (hscalar : v < 0xD800 ∨ 0xDFFF < v)
    (bs : List UInt8) :
    scan (UInt8.ofNat (v / 4096 % 16 + 224) :: UInt8.ofNat (v / 64 % 64 + 128) ::
      UInt8.ofNat (v % 64 + 128) :: bs) =
      some (Char.ofNat v) :: scan bs := by
  have hlead : (UInt8.ofNat (v / 4096 % 16 + 224)).toNat = v / 4096 % 16 + 224 :=
    UInt8.toNat_ofNat_of_lt' (show _ < 256 by omega)
  have hmid : (UInt8.ofNat (v / 64 % 64 + 128)).toNat = v / 64 % 64 + 128 :=
    UInt8.toNat_ofNat_of_lt' (show _ < 256 by omega)
  have hlast : (UInt8.ofNat (v % 64 + 128)).toNat = v % 64 + 128 :=
    UInt8.toNat_ofNat_of_lt' (show _ < 256 by omega)
  refine scan_sequence (by omega) [UInt8.ofNat (v % 64 + 128)]
    (followers_three (by omega) (by omega)) ?_ ?_ ?_ ?_ bs
  · split
    · rename_i hfirst
      have hnat : v / 4096 % 16 + 224 = 0xE0 := hlead.symm.trans (congrArg UInt8.toNat hfirst)
      refine UInt8.le_iff_toNat_le.mpr ?_
      change 0xA0 ≤ _
      omega
    · exact (continues (v / 64)).1
  · split
    · rename_i hsurrogate
      have hnat : v / 4096 % 16 + 224 = 0xED := hlead.symm.trans (congrArg UInt8.toNat hsurrogate)
      refine UInt8.le_iff_toNat_le.mpr ?_
      change _ ≤ 0x9F
      omega
    · exact (continues (v / 64)).2
  · exact List.forall_mem_singleton.mpr (continues v)
  · rw [codePoint_three, hlead, hmid, hlast]
    omega

theorem scan_four (hlow : 0xFFFF < v) (hhigh : v < 0x110000) (bs : List UInt8) :
    scan (UInt8.ofNat (v / 262144 % 8 + 240) :: UInt8.ofNat (v / 4096 % 64 + 128) ::
        UInt8.ofNat (v / 64 % 64 + 128) :: UInt8.ofNat (v % 64 + 128) :: bs) =
      some (Char.ofNat v) :: scan bs := by
  have hlead : (UInt8.ofNat (v / 262144 % 8 + 240)).toNat = v / 262144 % 8 + 240 :=
    UInt8.toNat_ofNat_of_lt' (show _ < 256 by omega)
  have hsecond : (UInt8.ofNat (v / 4096 % 64 + 128)).toNat = v / 4096 % 64 + 128 :=
    UInt8.toNat_ofNat_of_lt' (show _ < 256 by omega)
  have hthird : (UInt8.ofNat (v / 64 % 64 + 128)).toNat = v / 64 % 64 + 128 :=
    UInt8.toNat_ofNat_of_lt' (show _ < 256 by omega)
  have hlast : (UInt8.ofNat (v % 64 + 128)).toNat = v % 64 + 128 :=
    UInt8.toNat_ofNat_of_lt' (show _ < 256 by omega)
  refine scan_sequence (by omega) [UInt8.ofNat (v / 64 % 64 + 128), UInt8.ofNat (v % 64 + 128)]
    (followers_four (by omega) (by omega)) ?_ ?_ ?_ ?_ bs
  · split
    · rename_i hfirst
      have hnat : v / 262144 % 8 + 240 = 0xF0 := hlead.symm.trans (congrArg UInt8.toNat hfirst)
      refine UInt8.le_iff_toNat_le.mpr ?_
      change 0x90 ≤ _
      omega
    · exact (continues (v / 4096)).1
  · split
    · rename_i hfinal
      have hnat : v / 262144 % 8 + 240 = 0xF4 := hlead.symm.trans (congrArg UInt8.toNat hfinal)
      refine UInt8.le_iff_toNat_le.mpr ?_
      change _ ≤ 0x8F
      omega
    · exact (continues (v / 4096)).2
  · exact List.forall_mem_cons.mpr ⟨continues (v / 64), List.forall_mem_singleton.mpr (continues v)⟩
  · rw [codePoint_four, hlead, hsecond, hthird, hlast]
    omega

end

theorem utf8EncodeChar_ascii (h : c.toNat ≤ 0x7F) :
    String.utf8EncodeChar c = [UInt8.ofNat c.toNat] := by
  rw [utf8EncodeChar_eq, if_pos h]

theorem scan_utf8EncodeChar (c : Char) (bs : List UInt8) :
    scan (String.utf8EncodeChar c ++ bs) = some c :: scan bs := by
  have hvalid : c.toNat < 0xD800 ∨ 0xDFFF < c.toNat ∧ c.toNat < 0x110000 := c.valid
  have hchar : Char.ofNat c.toNat = c := Char.ofNat_toNat c
  by_cases hone : c.toNat ≤ 0x7F
  · have hb : (UInt8.ofNat c.toNat).toNat = c.toNat :=
      UInt8.toNat_ofNat_of_lt' (show _ < 256 by omega)
    have hlt : UInt8.ofNat c.toNat < 0x80 :=
      UInt8.lt_iff_toNat_lt.mpr (by rw [hb]; exact Nat.lt_succ_of_le hone)
    rw [utf8EncodeChar_ascii hone, List.singleton_append, scan_ascii hlt, hb, hchar]
  · rw [utf8EncodeChar_eq, if_neg hone]
    by_cases htwo : c.toNat ≤ 0x7FF
    · rw [if_pos htwo]
      exact (scan_two (by omega) htwo bs).trans (by rw [hchar])
    · rw [if_neg htwo]
      by_cases hthree : c.toNat ≤ 0xFFFF
      · rw [if_pos hthree]
        exact (scan_three (by omega) hthree (by omega) bs).trans (by rw [hchar])
      · rw [if_neg hthree]
        exact (scan_four (by omega) (by omega) bs).trans (by rw [hchar])

theorem scan_encode (cs : List Char) : scan (encode cs) = cs.map some := by
  induction cs with
  | nil => rw [encode, List.flatMap_nil, scan, List.map_nil]
  | cons c cs ih => rw [encode, List.flatMap_cons, scan_utf8EncodeChar, ← encode, ih, List.map_cons]

/-- The bytes of a text give the text. -/
theorem decode?_encode (cs : List Char) : decode? (encode cs) = some cs := by
  rw [decode?, scan_encode]
  induction cs with
  | nil => rfl
  | cons c cs ih =>
    rw [List.map_cons, List.mapM_cons, ih]
    rfl

end FeatureFlow.Text
