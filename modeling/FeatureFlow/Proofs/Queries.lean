import FeatureFlow.Http.Query
import FeatureFlow.Proofs.Conversions
import FeatureFlow.Proofs.Escapes

/-! Query strings. What is written as a form reads as the same names and values: no escaped text
holds a mark that divides pairs or a name from its value, and plus signs are blanks before the
escapes are decoded. -/
namespace FeatureFlow.Query

open Text

variable {pairs : List (String × String)} {pieces : List (List Char)} {body name value : List Char}
    {c : Char}

/-- Each pair as it stands in a form. -/
inductive Written : List (String × String) → List (List Char) → Prop where
  | nil : Written [] []
  | cons {pair : String × String} {name value : List Char} {pairs : List (String × String)}
      {pieces : List (List Char)} (hname : Escaped true pair.1.toList name)
      (hvalue : Escaped true pair.2.toList value) (hrest : Written pairs pieces) :
      Written (pair :: pairs) ((name ++ '=' :: value) :: pieces)

theorem exists_written (pairs : List (String × String)) : ∃ pieces, Written pairs pieces := by
  induction pairs with
  | nil => exact ⟨[], .nil⟩
  | cons pair pairs ih =>
    obtain ⟨pieces, hpieces⟩ := ih
    obtain ⟨name, hname⟩ := exists_escaped true pair.1.toList
    obtain ⟨value, hvalue⟩ := exists_escaped true pair.2.toList
    exact ⟨_, .cons hname hvalue hpieces⟩

theorem decode_of_escaped {s : String} (h : Escaped true s.toList name) : decode name = s := by
  have hdecode := h.percentDecode_map
  change String.ofList (percentDecode (name.map blankForPlus)) = s
  rw [hdecode, String.ofList_toList]

theorem parsePair_of_escaped {pair : String × String} (hname : Escaped true pair.1.toList name)
    (hvalue : Escaped true pair.2.toList value) : parsePair (name ++ '=' :: value) = pair := by
  have hequals : '=' ∉ name := hname.not_mem (by decide) (by decide) (by decide)
  rw [parsePair, cut_eq_some_iff.mpr ⟨rfl, hequals⟩]
  change (decode name, decode value) = pair
  rw [decode_of_escaped hname, decode_of_escaped hvalue]

theorem Written.map_parsePair (h : Written pairs pieces) : pieces.map parsePair = pairs := by
  induction h with
  | nil => rfl
  | cons hname hvalue _ ih => rw [List.map_cons, parsePair_of_escaped hname hvalue, ih]

/-- The marks of a query are in no pair, but for the one between name and value. -/
theorem Written.not_mem (h : Written pairs pieces) (hc : isUnreserved c = false)
    (hmarks : c ≠ '%' ∧ c ≠ '+' ∧ c ≠ '=') : ∀ piece ∈ pieces, c ∉ piece := by
  obtain ⟨hpercent, hplus, hequals⟩ := hmarks
  induction h with
  | nil => exact fun _ hpiece => absurd hpiece List.not_mem_nil
  | cons hname hvalue _ ih =>
    refine List.forall_mem_cons.mpr ⟨?_, ih⟩
    intro hmem
    rcases List.mem_append.mp hmem with hmem | hmem
    · exact hname.not_mem hc hpercent hplus hmem
    · rcases List.mem_cons.mp hmem with heq | hmem
      · exact hequals heq
      · exact hvalue.not_mem hc hpercent hplus hmem

theorem Written.ne_nil (h : Written pairs pieces) : ∀ piece ∈ pieces, piece ≠ [] := by
  induction h with
  | nil => exact fun _ hpiece => absurd hpiece List.not_mem_nil
  | cons _ _ _ ih =>
    refine List.forall_mem_cons.mpr ⟨?_, ih⟩
    exact List.append_ne_nil_of_right_ne_nil _ (List.cons_ne_nil _ _)

theorem dropWhile_replicate_append (n : Nat) (h : c ∉ body) :
    (List.replicate n c ++ body).dropWhile (· = c) = body := by
  have hall : ∀ x ∈ List.replicate n c, decide (x = c) = true := by
    intro x hx
    exact decide_eq_true (List.eq_of_mem_replicate hx)
  rw [List.dropWhile_append_of_pos hall]
  refine dropWhile_of_head fun x hx => decide_eq_false ?_
  rintro rfl
  exact h (List.mem_of_mem_head? hx)

theorem pairs_of_written (h : Written pairs pieces) (hbody : Separated '&' pieces body)
    {text : String} {n : Nat} (htext : text.toList = List.replicate n '?' ++ body) :
    Query.pairs text = pairs := by
  have hquestion : '?' ∉ body :=
    hbody.not_mem (by decide) (h.not_mem (by decide) (by decide))
  have hsplit : (body.splitOn '&').filter (· ≠ []) = pieces :=
    hbody.filter_splitOn h.ne_nil (h.not_mem (by decide) (by decide))
  rw [Query.pairs, htext, dropWhile_replicate_append n hquestion, hsplit, h.map_parsePair]

/-- A list of names and values, written as a form, reads as the map in which each name has the value
that it has last. Everything but unreserved characters is escaped, blanks may be plus signs,
ampersands stand between the pairs and maybe around them, and question marks may stand before them.
-/
theorem forms_read_back (pairs : List (String × String)) :
    (∃ pieces, Written pairs pieces) ∧
    ∀ pieces body text n, Written pairs pieces → Separated '&' pieces body →
      text.toList = List.replicate n '?' ++ body →
      (parse text).Ordered ∧
        ∀ name, (parse text).get? name =
          (pairs.filter fun pair => pair.1 = name).getLast?.map (·.2) := by
  refine ⟨exists_written pairs, ?_⟩
  intro pieces body text n hpieces hbody htext
  rw [parse, pairs_of_written hpieces hbody htext]
  exact ⟨KeyMap.ordered_ofList pairs, KeyMap.get?_ofList pairs⟩

/-- The second value of a repeated name, written with a plus sign for its blank, and an empty name.
-/
theorem repeated_name_has_last_value :
    let pairs := [("q", "1"), ("q", "+ é"), ("", "")]
    let pieces :=
      [['q', '=', '1'], ['q', '=', '%', '2', 'b', '+', '%', 'C', '3', '%', 'A', '9'], ['=']]
    let body := "q=1&&q=%2b+%C3%A9&=".toList
    let text := "?q=1&&q=%2b+%C3%A9&="
    Written pairs pieces ∧ Separated '&' pieces body ∧ text.toList = List.replicate 1 '?' ++ body ∧
    (parse text).Ordered ∧
      ∀ name, (parse text).get? name =
        (pairs.filter fun pair => pair.1 = name).getLast?.map (·.2) := by
  intro pairs pieces body text
  have hname : Escaped true "q".toList ['q'] := .plain (by decide) .nil
  have hfirst : Escaped true "1".toList ['1'] := .plain (by decide) .nil
  have hsecond : Escaped true "+ é".toList (['%', '2', 'b'] ++ '+' ::
      (['%', 'C', '3', '%', 'A', '9'] ++ [])) := by
    have htext : "+ é".toList = ['+', ' ', 'é'] := rfl
    rw [htext]
    exact .escape (by decide) (.cons (.inl rfl) (.inr rfl) .nil) (.blank rfl
      (.escape (by decide) (.cons (.inl rfl) (.inl rfl) (.cons (.inl rfl) (.inl rfl) .nil)) .nil))
  have hpieces : Written pairs pieces := by
    change Written [("q", "1"), ("q", "+ é"), ("", "")] [['q'] ++ '=' :: ['1'],
      ['q'] ++ '=' :: (['%', '2', 'b'] ++ '+' :: (['%', 'C', '3', '%', 'A', '9'] ++ [])),
      [] ++ '=' :: []]
    exact .cons hname hfirst (.cons hname hsecond (.cons .nil .nil .nil))
  have hbody : Separated '&' pieces body := by
    have htext : "q=1&&q=%2b+%C3%A9&=".toList = ['q', '=', '1'] ++ '&' :: '&' ::
      (['q', '=', '%', '2', 'b', '+', '%', 'C', '3', '%', 'A', '9'] ++ '&' :: ['=']) := rfl
    change Separated '&' pieces "q=1&&q=%2b+%C3%A9&=".toList
    rw [htext]
    exact .cons _ (.gap (.cons _ (.last _)))
  have htext : text.toList = List.replicate 1 '?' ++ body := by decide
  exact ⟨hpieces, hbody, htext, (forms_read_back pairs).2 pieces body text 1 hpieces hbody htext⟩

end FeatureFlow.Query
