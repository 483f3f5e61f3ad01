import FeatureFlow.Proofs.Blanks

/-! Lower case is final: what it is made of is its own lower case, and it brings in neither blanks
nor the separators of guards. Both are read off the table of case mappings. -/
namespace FeatureFlow.Text

namespace CaseRun

variable {r other : CaseRun} {n m low high : Nat}

/-- Where the run takes a code point. -/
def image (r : CaseRun) (n : Nat) : Nat := (n + r.shift).toNat

/-- No image of the run lies between the two code points. -/
def avoids (r : CaseRun) (low high : Nat) : Bool :=
  (r.image r.last).blt low || high.blt (r.image r.first)

/-- No image of the run belongs to the other run: they lie apart, or the other one steps over them.
-/
def apart (r other : CaseRun) : Bool :=
  r.avoids other.first other.last ||
    ((r.first == r.last || r.step % other.step == 0) &&
      r.image r.first % other.step != other.first % other.step)

theorem image?_eq_some_iff : r.image? n = some m ↔
    r.first ≤ n ∧ n ≤ r.last ∧ (n - r.first) % r.step = 0 ∧ m = r.image n := by
  unfold image?
  split
  · rename_i h
    obtain ⟨hfirst, hlast, hstep⟩ := h
    constructor
    · rintro ⟨⟩
      exact ⟨hfirst, hlast, hstep, rfl⟩
    · rintro ⟨-, -, -, rfl⟩
      rfl
  · rename_i h
    exact ⟨nofun, fun ⟨hfirst, hlast, hstep, _⟩ => absurd ⟨hfirst, hlast, hstep⟩ h⟩

theorem not_between_of_avoids (h : r.avoids low high = true) (hn : r.image? n = some m) :
    ¬ (low ≤ m ∧ m ≤ high) := by
  obtain ⟨hfirst, hlast, -, rfl⟩ := image?_eq_some_iff.mp hn
  rintro ⟨hlow, hhigh⟩
  rcases Bool.or_eq_true_iff.mp h with h | h
  · have hlt : r.image r.last < low := Nat.blt_eq.mp h
    unfold image at hlt hlow
    omega
  · have hlt : high < r.image r.first := Nat.blt_eq.mp h
    unfold image at hlt hhigh
    omega

/-- All that a run maps leaves one remainder. -/
theorem mod_of_image? (h : r.image? n = some m) : n % r.step = r.first % r.step := by
  obtain ⟨hfirst, -, hstep, -⟩ := image?_eq_some_iff.mp h
  have hsum : n = r.first + (n - r.first) := by omega
  rw [hsum, Nat.add_mod, hstep, Nat.add_zero, Nat.mod_mod]

/-- The images of a run leave one remainder by each divisor of its step. -/
theorem image_mod {k : Nat} (hk : r.first = r.last ∨ r.step % k = 0) (hpos : 0 < r.image r.first)
    (h : r.image? n = some m) : m % k = r.image r.first % k := by
  obtain ⟨hfirst, hlast, hstep, rfl⟩ := image?_eq_some_iff.mp h
  have hsum : r.image n = r.image r.first + (n - r.first) := by
    unfold image at hpos ⊢
    omega
  have hzero : (n - r.first) % k = 0 := by
    rcases hk with hone | hdvd
    · have hsame : n - r.first = 0 := by omega
      rw [hsame, Nat.zero_mod]
    · have htrans := Nat.dvd_trans (Nat.dvd_of_mod_eq_zero hdvd) (Nat.dvd_of_mod_eq_zero hstep)
      exact Nat.mod_eq_zero_of_dvd htrans
  rw [hsum, Nat.add_mod, hzero, Nat.add_zero, Nat.mod_mod]

/-- The other run has no image for an image of this one. -/
theorem image?_of_apart (h : r.apart other = true) (hpos : 0 < r.image r.first)
    (hn : r.image? n = some m) :
    other.image? m = none := by
  cases hother : other.image? m with
  | none => rfl
  | some k =>
    rcases Bool.or_eq_true_iff.mp h with h | h
    · obtain ⟨hlow, hhigh, -, -⟩ := image?_eq_some_iff.mp hother
      exact absurd ⟨hlow, hhigh⟩ (not_between_of_avoids h hn)
    · obtain ⟨hsteps, hne⟩ := Bool.and_eq_true_iff.mp h
      have hk : r.first = r.last ∨ r.step % other.step = 0 := by simpa using hsteps
      rw [← image_mod hk hpos hn, mod_of_image? hother] at hne
      simp at hne

end CaseRun

/-- The code points of blanks, of the separators of guards, and of what has a longer lower case,
with some others between them, and those that are no characters. -/
def reserved : List (Nat × Nat) :=
  [(0, 0x3B), (0x85, 0xA0), (0x130, 0x130), (0x1680, 0x1680), (0x2000, 0x205F), (0x3000, 0x3000),
    (0xD800, 0xDFFF)]

theorem lowerRuns_apart : (lowerRuns.all fun r => lowerRuns.all r.apart) = true := by decide +kernel

theorem lowerRuns_avoid : (lowerRuns.all fun r =>
    (r.image r.last).blt 0x110000 && reserved.all fun s => r.avoids s.1 s.2) = true := by
      decide +kernel

/-- A character of the lower case of another one: it stays as it is, and is neither a blank nor a
separator unless it was there before. -/
structure Lowered (c d : Char) : Prop where
  final : lowerChar d = [d]
  plain : d = c ∨ isBlank d = false ∧ d ≠ ',' ∧ d ≠ ';'

theorem lookup_lowerLong (n : Nat) :
    lowerLong.lookup n = if n = 0x130 then some [0x69, 0x307] else none := by
  by_cases h : n = 0x130
  · subst h
    rfl
  · have hne : (n == 0x130) = false := beq_eq_false_iff_ne.mpr h
    rw [if_neg h, lowerLong, List.lookup_cons, hne]
    rfl

theorem lowerChar_of_none {c : Char} (hlong : lowerLong.lookup c.toNat = none)
    (hruns : lowerRuns.findSome? (·.image? c.toNat) = none) : lowerChar c = [c] := by
  rw [lowerChar, mapCase, hlong]
  dsimp only
  rw [hruns]

section Runs

variable {r : CaseRun} (hr : r ∈ lowerRuns)
include hr

theorem image_first_pos : 0 < r.image r.first := by
  obtain ⟨-, havoid⟩ := Bool.and_eq_true_iff.mp (List.all_eq_true.mp lowerRuns_avoid r hr)
  have havoids : r.avoids 0 0x3B = true := List.all_eq_true.mp havoid (0, 0x3B) (by decide)
  rcases Bool.or_eq_true_iff.mp havoids with hlow | hhigh
  · exact absurd (Nat.blt_eq.mp hlow) (Nat.not_lt_zero _)
  · exact Nat.lt_of_le_of_lt (Nat.zero_le _) (Nat.blt_eq.mp hhigh)

variable {n m : Nat} (h : r.image? n = some m)
include h

theorem not_reserved_of_image? (low high : Nat) (hmem : (low, high) ∈ reserved) :
    ¬ (low ≤ m ∧ m ≤ high) := by
  obtain ⟨-, havoid⟩ := Bool.and_eq_true_iff.mp (List.all_eq_true.mp lowerRuns_avoid r hr)
  exact CaseRun.not_between_of_avoids (List.all_eq_true.mp havoid _ hmem) h

theorem toNat_of_image? : (Char.ofNat m).toNat = m := by
  obtain ⟨hmax, -⟩ := Bool.and_eq_true_iff.mp (List.all_eq_true.mp lowerRuns_avoid r hr)
  obtain ⟨-, hlast, -, hm⟩ := CaseRun.image?_eq_some_iff.mp h
  have hsurrogate := not_reserved_of_image? hr h 0xD800 0xDFFF (by decide)
  have hvalid : m.isValidChar := by
    have hlt : r.image r.last < 0x110000 := Nat.blt_eq.mp hmax
    unfold CaseRun.image at hm hlt
    unfold Nat.isValidChar
    omega
  have hchar : Char.ofNat m = Char.ofNatAux m hvalid := dif_pos hvalid
  rw [hchar]
  rfl

/-- What a run makes of a code point is a character that no case mapping changes. -/
theorem lowered_of_image? {c : Char} : Lowered c (Char.ofNat m) := by
  have hcode := toNat_of_image? hr h
  have hout := not_reserved_of_image? hr h
  have hmark := hout 0 0x3B (by decide)
  have hcontrol := hout 0x85 0xA0 (by decide)
  have hlong := hout 0x130 0x130 (by decide)
  have hogham := hout 0x1680 0x1680 (by decide)
  have hspaces := hout 0x2000 0x205F (by decide)
  have hwide := hout 0x3000 0x3000 (by decide)
  constructor
  · apply lowerChar_of_none
    · have hne : m ≠ 0x130 := fun heq => hlong ⟨by omega, by omega⟩
      rw [hcode, lookup_lowerLong, if_neg hne]
    · rw [hcode, List.findSome?_eq_none_iff]
      intro other hother
      have hapart : r.apart other = true :=
        List.all_eq_true.mp (List.all_eq_true.mp lowerRuns_apart r hr) other hother
      exact CaseRun.image?_of_apart hapart (image_first_pos hr) h
  · refine .inr ⟨?_, ?_, ?_⟩
    · simp only [isBlank, hcode, Bool.or_eq_false_iff, Bool.and_eq_false_iff,
        decide_eq_false_iff_not]
      omega
    · intro heq
      rw [heq] at hcode
      exact hmark ⟨Nat.zero_le _, hcode ▸ by decide⟩
    · intro heq
      rw [heq] at hcode
      exact hmark ⟨Nat.zero_le _, hcode ▸ by decide⟩

end Runs

theorem lowered_of_mem_lowerChar {c d : Char} (h : d ∈ lowerChar c) : Lowered c d := by
  by_cases hc : c.toNat = 0x130
  · have hlong : lowerLong.lookup c.toNat = some [0x69, 0x307] := by
      rw [lookup_lowerLong, if_pos hc]
    rw [lowerChar, mapCase, hlong] at h
    rcases List.mem_cons.mp h with rfl | h
    · exact ⟨by decide +kernel, .inr (by decide +kernel)⟩
    · obtain rfl := List.mem_singleton.mp h
      exact ⟨by decide +kernel, .inr (by decide +kernel)⟩
  · have hlong : lowerLong.lookup c.toNat = none := by rw [lookup_lowerLong, if_neg hc]
    cases hruns : lowerRuns.findSome? (·.image? c.toNat) with
    | none =>
      have hself := lowerChar_of_none hlong hruns
      rw [hself] at h
      obtain rfl := List.mem_singleton.mp h
      exact ⟨hself, .inl rfl⟩
    | some m =>
      obtain ⟨r, hr, himage⟩ := List.exists_of_findSome?_eq_some hruns
      rw [lowerChar, mapCase, hlong] at h
      dsimp only at h
      rw [hruns] at h
      obtain rfl := List.mem_singleton.mp h
      exact lowered_of_image? hr himage

theorem lowerChar_ne_nil (c : Char) : lowerChar c ≠ [] := by
  rw [lowerChar, mapCase, lookup_lowerLong]
  split
  · rename_i codes hcodes
    split at hcodes
    · cases hcodes
      exact List.cons_ne_nil _ _
    · cases hcodes
  · split <;> exact List.cons_ne_nil _ _

/-- One step of lowering: a character becomes some that no further lowering changes. -/
theorem lowerFrom_cons (before : List Char) (c : Char) (cs : List Char) :
    ∃ mapped, mapped ≠ [] ∧ (∀ d ∈ mapped, Lowered c d) ∧
      lowerFrom before (c :: cs) = mapped ++ lowerFrom (c :: before) cs := by
  by_cases hc : c = 'Σ'
  · subst hc
    refine ⟨[if facesCased before && !facesCased cs then 'ς' else 'σ'],
      List.cons_ne_nil _ _, ?_, rfl⟩
    intro d hd
    obtain rfl := List.mem_singleton.mp hd
    split
    · exact ⟨by decide +kernel, .inr (by decide +kernel)⟩
    · exact ⟨by decide +kernel, .inr (by decide +kernel)⟩
  · refine ⟨lowerChar c, lowerChar_ne_nil c, fun d => lowered_of_mem_lowerChar, ?_⟩
    rw [lowerFrom, if_neg hc]

section Lower

variable {before cs : List Char} {d : Char}

theorem mem_lowerFrom (h : d ∈ lowerFrom before cs) : ∃ c ∈ cs, Lowered c d := by
  induction cs generalizing before with
  | nil => cases h
  | cons c cs ih =>
    obtain ⟨mapped, -, hmapped, hcons⟩ := lowerFrom_cons before c cs
    rw [hcons] at h
    rcases List.mem_append.mp h with h | h
    · exact ⟨c, List.mem_cons_self, hmapped d h⟩
    · obtain ⟨c', hc', hd⟩ := ih h
      exact ⟨c', List.mem_cons_of_mem c hc', hd⟩

theorem getLast?_lowerFrom (h : d ∈ (lowerFrom before cs).getLast?) :
    ∃ c ∈ cs.getLast?, Lowered c d := by
  induction cs generalizing before with
  | nil => cases h
  | cons c cs ih =>
    obtain ⟨mapped, hne, hmapped, hcons⟩ := lowerFrom_cons before c cs
    rw [hcons, List.getLast?_append] at h
    rcases Option.or_eq_some_iff.mp h with h | ⟨hnone, h⟩
    · obtain ⟨c', hc', hd⟩ := ih h
      exact ⟨c', by rw [List.getLast?_cons, Option.mem_def.mp hc']; rfl, hd⟩
    · have hnil : cs = [] := by
        cases cs with
        | nil => rfl
        | cons c' cs =>
          obtain ⟨mapped', hne', -, hcons'⟩ := lowerFrom_cons (c :: before) c' cs
          rw [hcons', List.getLast?_eq_none_iff, List.append_eq_nil_iff] at hnone
          exact absurd hnone.1 hne'
      subst hnil
      exact ⟨c, rfl, hmapped d (List.mem_of_getLast? h)⟩

/-- A text that has been lowered stays as it is; a capital sigma, which looks around itself, is no
part of it. -/
theorem lowerFrom_of_final (h : ∀ d ∈ cs, lowerChar d = [d]) : lowerFrom before cs = cs := by
  induction cs generalizing before with
  | nil => rfl
  | cons c cs ih =>
    obtain ⟨hc, hcs⟩ := List.forall_mem_cons.mp h
    have hsigma : c ≠ 'Σ' := by
      rintro rfl
      exact absurd hc (by decide +kernel)
    rw [lowerFrom, if_neg hsigma, hc, ih hcs]
    rfl

theorem lower_lower (cs : List Char) : lower (lower cs) = lower cs := by
  apply lowerFrom_of_final
  intro d hd
  obtain ⟨c, -, hlowered⟩ := mem_lowerFrom hd
  exact hlowered.final

theorem lower_ne_nil (h : cs ≠ []) : lower cs ≠ [] := by
  obtain ⟨c, cs, rfl⟩ := List.exists_cons_of_ne_nil h
  obtain ⟨mapped, hne, -, hcons⟩ := lowerFrom_cons [] c cs
  rw [lower, hcons]
  exact List.append_ne_nil_of_left_ne_nil hne _

theorem Lowered.not_isBlank {c : Char} (h : Lowered c d) (hc : isBlank c = false) :
    isBlank d = false := by
  rcases h.plain with rfl | ⟨hd, -, -⟩
  · exact hc
  · exact hd

theorem Tidy.lower (h : Tidy cs) : Tidy (lower cs) where
  head d hd := by
    cases cs with
    | nil => cases hd
    | cons c cs =>
      obtain ⟨mapped, hne, hmapped, hcons⟩ := lowerFrom_cons [] c cs
      obtain ⟨d', mapped, rfl⟩ := List.exists_cons_of_ne_nil hne
      rw [Text.lower, hcons] at hd
      cases hd
      exact (hmapped d List.mem_cons_self).not_isBlank (h.head c rfl)
  last d hd := by
    obtain ⟨c, hc, hlowered⟩ := getLast?_lowerFrom hd
    exact hlowered.not_isBlank (h.last c hc)

theorem not_mem_lower (hmark : d = ',' ∨ d = ';') (h : d ∉ cs) : d ∉ lower cs := by
  intro hd
  obtain ⟨c, hc, hlowered⟩ := mem_lowerFrom hd
  rcases hlowered.plain with rfl | ⟨-, hcomma, hsemicolon⟩
  · exact h hc
  · rcases hmark with rfl | rfl
    · exact hcomma rfl
    · exact hsemicolon rfl

end Lower

end FeatureFlow.Text
