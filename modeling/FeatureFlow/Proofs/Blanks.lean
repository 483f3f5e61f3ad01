import FeatureFlow.Text.Blank
import FeatureFlow.Text.Case

/-! Blanks in texts. Trimming leaves a text without blanks at its ends, words have no blanks at all,
and blanks around a text do not change its words. -/
namespace FeatureFlow.Text

variable {cs xs ys : List Char} {c : Char}

/-- The parts of a text hold its characters, and no separators. -/
theorem of_mem_splitOnP {p : Char → Bool} {part : List Char} (h : part ∈ cs.splitOnP p)
    (hc : c ∈ part) :
    c ∈ cs ∧ p c = false := by
  induction cs generalizing part with
  | nil =>
    rw [List.splitOnP_nil, List.mem_singleton] at h
    subst h
    cases hc
  | cons x cs ih =>
    have hrest {part : List Char} (h : part ∈ cs.splitOnP p) (hc : c ∈ part) :
        c ∈ x :: cs ∧ p c = false :=
      (ih h hc).imp_left (List.mem_cons_of_mem x)
    rw [List.splitOnP_cons_eq_if_modifyHead] at h
    split at h
    · rcases List.mem_cons.mp h with rfl | h
      · cases hc
      · exact hrest h hc
    · rename_i hx
      obtain ⟨first, more, hsplit⟩ := List.exists_cons_of_ne_nil (List.splitOnP_ne_nil p cs)
      rw [hsplit, List.modifyHead_cons] at h
      rcases List.mem_cons.mp h with rfl | h
      · rcases List.mem_cons.mp hc with rfl | hc
        · exact ⟨List.mem_cons_self, by simpa using hx⟩
        · exact hrest (hsplit ▸ List.mem_cons_self) hc
      · exact hrest (hsplit ▸ List.mem_cons_of_mem _ h) hc

theorem of_mem_splitOn {mark : Char} {part : List Char} (h : part ∈ cs.splitOn mark)
    (hc : c ∈ part) :
    c ∈ cs ∧ c ≠ mark := (of_mem_splitOnP h hc).imp_right fun hne => by simpa using hne

/-- There is no blank at either end. -/
structure Tidy (cs : List Char) : Prop where
  head : ∀ c ∈ cs.head?, isBlank c = false
  last : ∀ c ∈ cs.getLast?, isBlank c = false

theorem dropWhile_of_head {p : Char → Bool} (h : ∀ c ∈ cs.head?, p c = false) :
    cs.dropWhile p = cs := by
  cases cs with
  | nil => rfl
  | cons c cs => rw [List.dropWhile_cons, if_neg (by simp [h c rfl])]

theorem of_mem_head?_dropWhile {p : Char → Bool} (h : c ∈ (cs.dropWhile p).head?) :
    p c = false := by
  have hhead := List.head?_dropWhile_not p cs
  rw [Option.mem_def.mp h] at hhead
  exact hhead

theorem trimRight_isPrefix (cs : List Char) : trimRight cs <+: cs := by
  rw [trimRight, ← List.reverse_suffix, List.reverse_reverse]
  exact List.dropWhile_suffix _

theorem trim_of_tidy (h : Tidy cs) : trim cs = cs := by
  have hlast : ∀ c ∈ cs.reverse.head?, isBlank c = false := by
    rw [List.head?_reverse]
    exact h.last
  rw [trim, trimLeft, dropWhile_of_head h.head, trimRight, dropWhile_of_head hlast,
    List.reverse_reverse]

theorem tidy_trim (cs : List Char) : Tidy (trim cs) where
  head c hc := by
    obtain ⟨rest, hrest⟩ := trimRight_isPrefix (trimLeft cs)
    have hmem : c ∈ (trimLeft cs).head? := by
      rw [← hrest, List.head?_append]
      exact Option.mem_def.mpr (Option.or_eq_some_iff.mpr (.inl hc))
    exact of_mem_head?_dropWhile hmem
  last c hc := by
    rw [trim, trimRight, List.getLast?_reverse] at hc
    exact of_mem_head?_dropWhile hc

theorem tidy_of_trim (h : trim cs = cs) : Tidy cs := h ▸ tidy_trim cs

theorem tidy_of_forall (h : ∀ c ∈ cs, isBlank c = false) : Tidy cs :=
  ⟨fun c hc => h c (List.mem_of_mem_head? hc), fun c hc => h c (List.mem_of_getLast? hc)⟩

theorem mem_of_mem_trim (h : c ∈ trim cs) : c ∈ cs :=
  (List.dropWhile_suffix _).subset ((trimRight_isPrefix _).subset h)

theorem Tidy.append (hx : Tidy xs) (hy : Tidy ys) (hxne : xs ≠ []) (hyne : ys ≠ [])
    (mid : List Char) :
    Tidy (xs ++ (mid ++ ys)) where
  head c hc := by
    obtain ⟨x, xs, rfl⟩ := List.exists_cons_of_ne_nil hxne
    exact hx.head c hc
  last c hc := by
    rw [List.getLast?_append, List.getLast?_append, List.getLast?_eq_some_getLast hyne] at hc
    exact hy.last c (List.getLast?_eq_some_getLast hyne ▸ hc)

/-- Nothing but blanks. -/
def Blank (cs : List Char) : Prop := ∀ c ∈ cs, isBlank c = true

theorem exists_trimLeft (cs : List Char) : ∃ before, Blank before ∧ cs = before ++ trimLeft cs :=
  ⟨cs.takeWhile isBlank, List.all_eq_true.mp List.all_takeWhile,
    List.takeWhile_append_dropWhile.symm⟩

theorem exists_trimRight (cs : List Char) : ∃ after, Blank after ∧ cs = trimRight cs ++ after := by
  refine ⟨(cs.reverse.takeWhile isBlank).reverse, fun c hc => ?_, ?_⟩
  · exact List.all_eq_true.mp List.all_takeWhile c (List.mem_reverse.mp hc)
  · rw [trimRight, ← List.reverse_append, List.takeWhile_append_dropWhile, List.reverse_reverse]

/-- A text is what trimming leaves of it, with blanks on both sides. -/
theorem exists_trim (cs : List Char) :
    ∃ before after, Blank before ∧ Blank after ∧ cs = before ++ (trim cs ++ after) := by
  obtain ⟨before, hbefore, hcs⟩ := exists_trimLeft cs
  obtain ⟨after, hafter, hrest⟩ := exists_trimRight (trimLeft cs)
  exact ⟨before, after, hbefore, hafter, by rw [trim, ← hrest, ← hcs]⟩

theorem trim_eq_nil_iff : trim cs = [] ↔ Blank cs := by
  constructor
  · intro hnil c hc
    obtain ⟨before, after, hbefore, hafter, hcs⟩ := exists_trim cs
    rw [hcs, hnil, List.nil_append] at hc
    exact (List.mem_append.mp hc).elim (hbefore c) (hafter c)
  · intro hblank
    cases htrim : trim cs with
    | nil => rfl
    | cons c rest =>
      have hc := (tidy_trim cs).head c (htrim ▸ rfl)
      rw [hblank c (mem_of_mem_trim (htrim ▸ List.mem_cons_self))] at hc
      cases hc

theorem trim_blanks_append (h : Blank xs) : trim (xs ++ ys) = trim ys := by
  rw [trim, trimLeft, List.dropWhile_append_of_pos h, trim, trimLeft]

theorem trim_append_blanks (h : Blank ys) : trim (xs ++ ys) = trim xs := by
  rw [trim, trimLeft, List.dropWhile_append]
  split
  · rename_i hnil
    have hys : (ys ++ []).dropWhile isBlank = [] := List.dropWhile_append_of_pos h
    rw [List.append_nil] at hys
    rw [hys, trim, trimLeft, List.isEmpty_iff.mp hnil]
  · have hreverse : ∀ c ∈ ys.reverse, isBlank c = true := fun c hc => h c (List.mem_reverse.mp hc)
    rw [trimRight, List.reverse_append, List.dropWhile_append_of_pos hreverse]
    rfl

theorem trimLeft_append_cons (h : isBlank c = false) (xs ys : List Char) :
    trimLeft (xs ++ c :: ys) = trimLeft xs ++ c :: ys := by
  have hstop : (c :: ys).dropWhile isBlank = c :: ys := List.dropWhile_cons_of_neg (by simp [h])
  rw [trimLeft, List.dropWhile_append, hstop]
  split
  · rename_i hnil
    rw [trimLeft, List.isEmpty_iff.mp hnil]
    rfl
  · rfl

theorem trimRight_append_cons (h : isBlank c = false) (xs ys : List Char) :
    trimRight (xs ++ c :: ys) = xs ++ c :: trimRight ys := by
  have hreverse : (xs ++ c :: ys).reverse = ys.reverse ++ c :: xs.reverse := by simp
  have hleft := trimLeft_append_cons h ys.reverse xs.reverse
  rw [trimLeft, trimLeft] at hleft
  rw [trimRight, hreverse, hleft, trimRight]
  simp

/-- Around a character that is not blank, either side is trimmed by itself. -/
theorem trim_append_cons (h : isBlank c = false) (xs ys : List Char) :
    trim (xs ++ c :: ys) = trimLeft xs ++ c :: trimRight ys := by
  rw [trim, trimLeft_append_cons h, trimRight_append_cons h]

theorem trim_trimLeft (cs : List Char) : trim (trimLeft cs) = trim cs := by
  obtain ⟨before, hbefore, hcs⟩ := exists_trimLeft cs
  rw [← trim_blanks_append hbefore, ← hcs]

theorem trim_trimRight (cs : List Char) : trim (trimRight cs) = trim cs := by
  obtain ⟨after, hafter, hcs⟩ := exists_trimRight cs
  rw [← trim_append_blanks hafter, ← hcs]

section Parts

variable {sep : Char}

/-- Blanks before a text change only the first of its parts. -/
theorem map_trim_splitOn_blanks_append (hsep : isBlank sep = false) (h : Blank xs) :
    ((xs ++ ys).splitOn sep).map trim = (ys.splitOn sep).map trim := by
  induction xs with
  | nil => rfl
  | cons c xs ih =>
    obtain ⟨hc, hxs⟩ := List.forall_mem_cons.mp h
    have hne : c ≠ sep := by
      rintro rfl
      rw [hc] at hsep
      cases hsep
    obtain ⟨first, more, hsplit⟩ := List.exists_cons_of_ne_nil (List.splitOn_ne_nil sep (xs ++ ys))
    have hblank : Blank [c] := by simpa [Blank] using hc
    have hfirst : trim (c :: first) = trim first := trim_blanks_append hblank
    rw [← ih hxs, List.cons_append, List.splitOn_cons_eq_if_modifyHead,
      if_neg (by simpa using hne), hsplit,
      List.modifyHead_cons, List.map_cons, List.map_cons, hfirst]

/-- What follows a text without a separator in it belongs to the last of its parts. -/
theorem splitOn_append (h : sep ∉ ys) (xs : List Char) :
    ∃ parts last, xs.splitOn sep = parts ++ [last] ∧ (xs ++
      ys).splitOn sep = parts ++ [last ++ ys] := by
  induction xs with
  | nil => exact ⟨[], [], rfl, List.splitOn_eq_singleton h⟩
  | cons c xs ih =>
    obtain ⟨parts, last, hxs, hboth⟩ := ih
    rw [List.cons_append, List.splitOn_cons_eq_if_modifyHead, List.splitOn_cons_eq_if_modifyHead,
      hxs, hboth]
    split
    · exact ⟨[] :: parts, last, rfl, rfl⟩
    · cases parts with
      | nil => exact ⟨[], c :: last, rfl, rfl⟩
      | cons part parts => exact ⟨(c :: part) :: parts, last, rfl, rfl⟩

theorem map_trim_splitOn_append_blanks (hsep : isBlank sep = false) (h : Blank ys) :
    ((xs ++ ys).splitOn sep).map trim = (xs.splitOn sep).map trim := by
  have hys : sep ∉ ys := by
    intro hmem
    rw [h sep hmem] at hsep
    cases hsep
  obtain ⟨parts, last, hxs, hboth⟩ := splitOn_append hys xs
  rw [hxs, hboth, List.map_append, List.map_append, List.map_singleton, List.map_singleton,
    trim_append_blanks h]

/-- A text may be trimmed before its parts are. -/
theorem map_trim_splitOn_trim (hsep : isBlank sep = false) (cs : List Char) :
    ((trim cs).splitOn sep).map trim = (cs.splitOn sep).map trim := by
  obtain ⟨before, after, hbefore, hafter, hcs⟩ := exists_trim cs
  conv => rhs; rw [hcs]
  rw [map_trim_splitOn_blanks_append hsep hbefore, map_trim_splitOn_append_blanks hsep hafter]

end Parts

theorem words_append_cons (h : isBlank c = true) (xs ys : List Char) :
    words (xs ++ c :: ys) = words xs ++ words ys := by
  rw [words, List.splitOnP_append_cons xs ys h, List.filter_append]
  rfl

theorem words_of_not_isBlank (hne : cs ≠ []) (h : ∀ c ∈ cs, isBlank c = false) :
    words cs = [cs] := by
  rw [words, List.splitOnP_eq_singleton h]
  simp [hne]

theorem words_blanks_append (h : Blank xs) : words (xs ++ ys) = words ys := by
  induction xs with
  | nil => rfl
  | cons c xs ih =>
    obtain ⟨hc, hxs⟩ := List.forall_mem_cons.mp h
    exact (words_append_cons hc [] (xs ++ ys)).trans (ih hxs)

theorem words_append_blanks (h : Blank ys) : words (xs ++ ys) = words xs := by
  cases ys with
  | nil => rw [List.append_nil]
  | cons c ys =>
    obtain ⟨hc, hys⟩ := List.forall_mem_cons.mp h
    have hnone : words ys = [] := by
      have hnil : words (ys ++ []) = words [] := words_blanks_append hys
      rwa [List.append_nil] at hnil
    rw [words_append_cons hc, hnone, List.append_nil]

theorem words_trimLeft (cs : List Char) : words (trimLeft cs) = words cs := by
  obtain ⟨before, hbefore, hcs⟩ := exists_trimLeft cs
  rw [← words_blanks_append hbefore, ← hcs]

theorem words_trimRight (cs : List Char) : words (trimRight cs) = words cs := by
  obtain ⟨after, hafter, hcs⟩ := exists_trimRight cs
  rw [← words_append_blanks hafter, ← hcs]

theorem words_trim (cs : List Char) : words (trim cs) = words cs := by
  rw [trim, words_trimRight, words_trimLeft]

theorem words_ne_nil (hc : c ∈ cs) (h : isBlank c = false) : words cs ≠ [] := by
  induction cs with
  | nil => cases hc
  | cons x cs ih =>
    cases hx : isBlank x with
    | true =>
      have hrest : words (x :: cs) = words cs := words_append_cons hx [] cs
      rw [hrest]
      rcases List.mem_cons.mp hc with rfl | hc
      · rw [h] at hx
        cases hx
      · exact ih hc
    | false =>
      obtain ⟨first, more, hsplit⟩ := List.exists_cons_of_ne_nil (List.splitOnP_ne_nil isBlank cs)
      rw [words, List.splitOnP_cons_eq_if_modifyHead, if_neg (by simp [hx]), hsplit,
        List.modifyHead_cons]
      simp

theorem intercalate_words_eq_nil : List.intercalate [' '] (words cs) = [] ↔ words cs = [] := by
  constructor
  · intro h
    cases hwords : words cs with
    | nil => rfl
    | cons word more =>
      have hword : word ∈ words cs := hwords ▸ List.mem_cons_self
      have hne : word ≠ [] := by simpa using (List.mem_filter.mp hword).2
      rw [hwords] at h
      cases more with
      | nil =>
        rw [List.intercalate_singleton] at h
        exact absurd h hne
      | cons word' more =>
        rw [List.intercalate_cons_cons] at h
        simp at h
  · intro h
    rw [h]
    rfl

/-- A blank inside a tidy text has words on either side. -/
theorem Tidy.words_ne_nil (h : Tidy (xs ++ c :: ys)) (hc : isBlank c = true) :
    words xs ≠ [] ∧ words ys ≠ [] := by
  constructor
  · cases xs with
    | nil =>
      have hhead := h.head c rfl
      rw [hc] at hhead
      cases hhead
    | cons x xs => exact Text.words_ne_nil List.mem_cons_self (h.head x rfl)
  · cases hlast : ys.getLast? with
    | none =>
      rw [List.getLast?_eq_none_iff] at hlast
      have hend := h.last c (by simp [hlast])
      rw [hc] at hend
      cases hend
    | some y =>
      have hend := h.last y (by simp [List.getLast?_append, List.getLast?_cons, hlast])
      exact Text.words_ne_nil (List.mem_of_getLast? hlast) hend

/-- A text whose words are one has no blanks but at its ends. -/
theorem trim_of_words {word : List Char} (h : words cs = [word]) : trim cs = word := by
  rw [← words_trim] at h
  have hnone : ∀ c ∈ trim cs, isBlank c = false := by
    intro c hc
    cases hblank : isBlank c with
    | false => rfl
    | true =>
      obtain ⟨xs, ys, hsplit⟩ := List.append_of_mem hc
      obtain ⟨hx, hy⟩ := (hsplit ▸ tidy_trim cs).words_ne_nil hblank
      rw [hsplit, words_append_cons hblank] at h
      have hlength := congrArg List.length h
      rw [List.length_append, List.length_singleton] at hlength
      have hxpos := List.length_pos_iff.mpr hx
      have hypos := List.length_pos_iff.mpr hy
      omega
  have hne : trim cs ≠ [] := by
    intro hnil
    rw [hnil] at h
    cases h
  rw [words_of_not_isBlank hne hnone] at h
  exact List.singleton_inj.mp h

theorem isBlank_toLower (c : Char) : isBlank c.toLower = isBlank c := by
  by_cases h : c.val ≥ 'A'.val ∧ c.val ≤ 'Z'.val
  · have hall : ((List.range 26).all fun n =>
        isBlank (Char.ofNat (65 + n)).toLower = isBlank (Char.ofNat (65 + n))) = true := by
          decide +kernel
    have hlow : 65 ≤ c.toNat := UInt32.le_iff_toNat_le.mp h.1
    have hhigh : c.toNat ≤ 90 := UInt32.le_iff_toNat_le.mp h.2
    have hc := List.all_eq_true.mp hall (c.toNat - 65) (List.mem_range.mpr (by omega))
    rw [show 65 + (c.toNat - 65) = c.toNat by omega, Char.ofNat_toNat] at hc
    exact of_decide_eq_true hc
  · have hself : c.toLower = c := dif_neg h
    rw [hself]

theorem sameIgnoringCase_iff {a b : String} :
    sameIgnoringCase a b = true ↔ asciiLower a.toList = asciiLower b.toList := beq_iff_eq

theorem sameIgnoringCase_refl (a : String) : sameIgnoringCase a a = true :=
  sameIgnoringCase_iff.mpr rfl

theorem not_isBlank_of_same {a b : String} (h : sameIgnoringCase a b = true)
    (hb : ∀ c ∈ b.toList, isBlank c = false) : ∀ c ∈ a.toList, isBlank c = false := by
  intro c hc
  have hlower : c.toLower ∈ asciiLower b.toList :=
    sameIgnoringCase_iff.mp h ▸ List.mem_map_of_mem hc
  obtain ⟨d, hd, heq⟩ := List.mem_map.mp hlower
  rw [← isBlank_toLower, ← heq, isBlank_toLower]
  exact hb d hd

/-- The words of a text with single blanks between them are one word exactly if the text, trimmed,
is it. -/
theorem same_words_iff {a b : String} (hb : ∀ c ∈ b.toList, isBlank c = false)
    (hne : words a.toList ≠ []) :
    sameIgnoringCase (String.ofList (List.intercalate [' '] (words a.toList))) b = true ↔
      sameIgnoringCase (String.ofList (trim a.toList)) b = true := by
  constructor
  · intro h
    have hnone := not_isBlank_of_same h hb
    rw [String.toList_ofList] at hnone
    obtain ⟨word, more, hwords⟩ := List.exists_cons_of_ne_nil hne
    cases more with
    | nil =>
      rw [trim_of_words hwords]
      rwa [hwords, List.intercalate_singleton] at h
    | cons word' more =>
      rw [hwords, List.intercalate_cons_cons] at hnone
      exact absurd (hnone ' ' (by simp)) (by decide)
  · intro h
    have hnone := not_isBlank_of_same h hb
    rw [String.toList_ofList] at hnone
    have htrim : trim a.toList ≠ [] := by
      intro hnil
      rw [← words_trim, hnil] at hne
      exact hne rfl
    rwa [← words_trim, words_of_not_isBlank htrim hnone, List.intercalate_singleton]

end FeatureFlow.Text
