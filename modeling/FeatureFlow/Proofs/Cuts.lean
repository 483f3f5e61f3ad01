import FeatureFlow.Proofs.Blanks
import FeatureFlow.Text.Cut

/-! Texts cut at marks. A text is cut at the first of its marks, and what is joined from parts
without a separator in them is split into the same parts. -/
namespace FeatureFlow.Text

variable {sep : Char} {marks cs xs ys : List Char} {texts : List String}

theorem cut_cons_of_ne {mark c : Char} (h : c ≠ mark) (cs : List Char) :
    cut [mark] (c :: cs) = (cut [mark] cs).map fun parts => (c :: parts.1, parts.2) := by
  have hprefix : [mark].isPrefixOf (c :: cs) = false := by simp [List.isPrefixOf, Ne.symm h]
  rw [cut, hprefix]
  rfl

theorem cut_append_cons {mark : Char} {before : List Char} (h : ∀ c ∈ before, c ≠ mark)
    (after : List Char) :
    cut [mark] (before ++ mark :: after) = some (before, after) := by
  induction before with
  | nil => simp [cut]
  | cons c before ih =>
    obtain ⟨hc, hbefore⟩ := List.forall_mem_cons.mp h
    rw [List.cons_append, cut_cons_of_ne hc, ih hbefore]
    rfl

theorem cut_of_forall_ne {mark : Char} {cs : List Char} (h : ∀ c ∈ cs, c ≠ mark) :
    cut [mark] cs = none := by
  induction cs with
  | nil => rfl
  | cons c cs ih =>
    obtain ⟨hc, hcs⟩ := List.forall_mem_cons.mp h
    rw [cut_cons_of_ne hc, ih hcs]
    rfl

theorem not_mem_of_cut {mark : Char} {cs before after : List Char}
    (h : cut [mark] cs = some (before, after)) :
    mark ∉ before := by
  induction cs generalizing before with
  | nil => cases h
  | cons c cs ih =>
    by_cases hc : c = mark
    · subst hc
      have hcut : cut [c] ([] ++ c :: cs) = some ([], cs) :=
        cut_append_cons (fun _ hmem => absurd hmem List.not_mem_nil) cs
      rw [List.nil_append] at hcut
      rw [hcut] at h
      cases h
      exact List.not_mem_nil
    · rw [cut_cons_of_ne hc] at h
      obtain ⟨sides, hsides, heq⟩ := Option.map_eq_some_iff.mp h
      cases heq
      intro hmem
      rcases List.mem_cons.mp hmem with heq | hmem
      · exact hc heq.symm
      · exact ih hsides hmem

theorem cut_eq_some_iff {mark : Char} {before after : List Char} :
    cut [mark] cs = some (before, after) ↔ cs = before ++ mark :: after ∧ mark ∉ before := by
  constructor
  · intro h
    have happend := append_of_cut h
    rw [List.append_assoc] at happend
    exact ⟨happend.symm, not_mem_of_cut h⟩
  · rintro ⟨rfl, hmark⟩
    refine cut_append_cons ?_ after
    rintro _ hc rfl
    exact hmark hc

theorem cut_eq_none_iff {mark : Char} : cut [mark] cs = none ↔ mark ∉ cs := by
  constructor
  · intro h hmem
    obtain ⟨before, after, rfl, hbefore⟩ := List.eq_append_cons_of_mem hmem
    rw [cut_eq_some_iff.mpr ⟨rfl, hbefore⟩] at h
    cases h
  · intro h
    refine cut_of_forall_ne ?_
    rintro _ hc rfl
    exact h hc

/-- Trimming a text leaves the sides of a mark as they are, but for the ends of the text. -/
theorem cut_trim {mark : Char} (hmark : isBlank mark = false) (cs : List Char) :
    cut [mark] (trim cs) = (cut [mark] cs).map fun sides =>
      (trimLeft sides.1, trimRight sides.2) := by
  cases hcut : cut [mark] cs with
  | none => exact cut_eq_none_iff.mpr fun hmem => cut_eq_none_iff.mp hcut (mem_of_mem_trim hmem)
  | some sides =>
    obtain ⟨rfl, hbefore⟩ := cut_eq_some_iff.mp hcut
    rw [trim_append_cons hmark]
    exact cut_eq_some_iff.mpr ⟨rfl, fun hmem => hbefore ((List.dropWhile_suffix _).subset hmem)⟩

/-- A text that stands between marks as it is: nothing of it is trimmed, and no mark cuts it. -/
structure Part (marks cs : List Char) : Prop where
  ne_nil : cs ≠ []
  tidy : Tidy cs
  free : ∀ c ∈ marks, c ∉ cs

theorem Part.mono (h : Part marks cs) {fewer : List Char} (hsub : fewer ⊆ marks) : Part fewer cs :=
  ⟨h.ne_nil, h.tidy, fun c hc => h.free c (hsub hc)⟩

theorem Part.append (hx : Part marks xs) (hy : Part marks ys) (hsep : sep ∉ marks) :
    Part marks (xs ++ sep :: ys) where
  ne_nil := List.append_ne_nil_of_left_ne_nil hx.ne_nil _
  tidy := hx.tidy.append hy.tidy hx.ne_nil hy.ne_nil [sep]
  free c hc hmem := by
    rcases List.mem_append.mp hmem with hmem | hmem
    · exact hx.free c hc hmem
    · rcases List.mem_cons.mp hmem with rfl | hmem
      · exact hsep hc
      · exact hy.free c hc hmem

/-- The parts between separators, without the blank ones. -/
def parts (sep : Char) (cs : List Char) : List (List Char) :=
  ((cs.splitOn sep).map trim).filter (· ≠ [])

theorem part_of_mem_parts {part : List Char} (h : part ∈ parts sep cs)
    (hfree : ∀ c ∈ marks, c ∉ cs) :
    Part (sep :: marks) part := by
  obtain ⟨hmem, hne⟩ := List.mem_filter.mp h
  obtain ⟨raw, hraw, rfl⟩ := List.mem_map.mp hmem
  refine ⟨by simpa using hne, tidy_trim raw, fun c hc hmem => ?_⟩
  obtain ⟨hcs, hsep⟩ := of_mem_splitOn hraw (mem_of_mem_trim hmem)
  rcases List.mem_cons.mp hc with rfl | hc
  · exact hsep rfl
  · exact hfree c hc hcs

/-- Texts with a separator between them. -/
def join (sep : Char) (texts : List String) : List Char :=
  [sep].intercalate (texts.map String.toList)

theorem join_singleton (s : String) : join sep [s] = s.toList := List.intercalate_singleton

theorem join_cons_cons (s t : String) (texts : List String) :
    join sep (s :: t :: texts) = s.toList ++ sep :: join sep (t :: texts) := by
  rw [join, List.map_cons, List.map_cons, List.intercalate_cons_cons, List.append_assoc]
  rfl

/-- Parts make a part of what they are joined to. -/
theorem part_join (hne : texts ≠ []) (h : ∀ s ∈ texts, Part marks s.toList) (hsep : sep ∉ marks) :
    Part marks (join sep texts) := by
  induction texts with
  | nil => exact absurd rfl hne
  | cons s texts ih =>
    obtain ⟨hs, htexts⟩ := List.forall_mem_cons.mp h
    cases texts with
    | nil => rwa [join_singleton]
    | cons t texts =>
      rw [join_cons_cons]
      exact hs.append (ih (List.cons_ne_nil _ _) htexts) hsep

theorem splitOn_join (hne : texts ≠ []) (h : ∀ s ∈ texts, Part marks s.toList)
    (hsep : sep ∈ marks) :
    (join sep texts).splitOn sep = texts.map String.toList := by
  apply List.splitOn_intercalate
  · intro part hpart
    obtain ⟨s, hs, rfl⟩ := List.mem_map.mp hpart
    exact (h s hs).free sep hsep
  · simpa using hne

theorem parts_join (h : ∀ s ∈ texts, Part marks s.toList) (hsep : sep ∈ marks) :
    parts sep (join sep texts) = texts.map String.toList := by
  by_cases hne : texts = []
  · subst hne
    rfl
  · have htrim : (texts.map String.toList).map trim = texts.map String.toList := by
      rw [List.map_map]
      exact List.map_congr_left fun s hs => trim_of_tidy (h s hs).tidy
    rw [parts, splitOn_join hne h hsep, htrim, List.filter_eq_self]
    intro part hpart
    obtain ⟨s, hs, rfl⟩ := List.mem_map.mp hpart
    simpa using (h s hs).ne_nil

end FeatureFlow.Text
