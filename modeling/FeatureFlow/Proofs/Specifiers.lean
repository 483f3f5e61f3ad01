import FeatureFlow.Proofs.Cuts
import FeatureFlow.Proofs.Records
import FeatureFlow.Proofs.Texts
import FeatureFlow.Specifier

/-! The texts of specifiers. A grammar says which texts spell which specifier, and reading follows
it: what it takes is what the grammar spells, and every specifier but a pick of fewer than two
indices is spelled by what it is written as. -/
namespace FeatureFlow

namespace Text

/-- The digits that show a number. -/
def digits (n : Nat) : List Char := (toString n).toList

theorem isDigit_of_mem_digits {n : Nat} {c : Char} (h : c ∈ digits n) : c.isDigit = true :=
  Value.isDigit_of_mem_repr h

theorem digits_ne_nil (n : Nat) : digits n ≠ [] := by
  rw [digits, Nat.toString_eq_repr, Nat.toList_repr]
  exact Nat.toDigits_ne_nil

theorem ofDigitChars_digits (n : Nat) : Nat.ofDigitChars 10 (digits n) 0 = n := by
  rw [digits, Nat.toString_eq_repr, Nat.toList_repr]
  exact Nat.ofDigitChars_ten_toDigits

theorem not_isBlank_of_isDigit {c : Char} (h : c.isDigit = true) : isBlank c = false := by
  obtain ⟨hlow, hhigh⟩ := Bool.and_eq_true_iff.mp h
  have hlow' : 48 ≤ c.toNat := of_decide_eq_true hlow
  have hhigh' : c.toNat ≤ 57 := of_decide_eq_true hhigh
  simp only [isBlank, Bool.or_eq_false_iff, Bool.and_eq_false_iff, decide_eq_false_iff_not]
  omega

theorem toLower_of_isDigit {c : Char} (h : c.isDigit = true) : c.toLower = c := by
  obtain ⟨-, hhigh⟩ := Bool.and_eq_true_iff.mp h
  have hle : c.toNat ≤ 57 := of_decide_eq_true hhigh
  refine dif_neg ?_
  rintro ⟨hletter, -⟩
  have hge : 65 ≤ c.toNat := UInt32.le_iff_toNat_le.mp hletter
  omega

theorem numeral?_eq_some_iff {most n : Nat} {cs : List Char} :
    numeral? most cs = some n ↔ ∃ ds, (cs = ds ∨ cs = '+' :: ds) ∧ ds ≠ [] ∧
      (∀ d ∈ ds, d.isDigit = true) ∧
      Nat.ofDigitChars 10 ds 0 = n ∧ n ≤ most := by
  have hread {ds : List Char} : (if ds ≠ [] ∧ ds.all Char.isDigit ∧
    digitsValue ds ≤ most then some (digitsValue ds)
      else none) = some n ↔ ds ≠ [] ∧ (∀ d ∈ ds, d.isDigit = true) ∧ Nat.ofDigitChars 10 ds 0 = n ∧
        n ≤ most := by
    rw [Option.ite_none_right_eq_some, List.all_eq_true, Option.some.injEq]
    constructor
    · rintro ⟨⟨hne, hdigits, hle⟩, rfl⟩
      exact ⟨hne, hdigits, rfl, hle⟩
    · rintro ⟨hne, hdigits, rfl, hle⟩
      exact ⟨⟨hne, hdigits, hle⟩, rfl⟩
  unfold numeral?
  dsimp only
  split
  · rename_i ds
    rw [hread]
    constructor
    · exact fun h => ⟨ds, .inr rfl, h⟩
    · rintro ⟨_, rfl | heq, hne, hdigits, h⟩
      · exact absurd (hdigits '+' List.mem_cons_self) (by decide)
      · cases heq
        exact ⟨hne, hdigits, h⟩
  · rename_i hsign
    rw [hread]
    constructor
    · exact fun h => ⟨cs, .inl rfl, h⟩
    · rintro ⟨ds, rfl | heq, h⟩
      · exact h
      · exact absurd heq (hsign ds)

end Text

namespace Specifier

open Text

/-- Digits of the ASCII range whose value is a word of 64 bits. -/
structure Digits (ds : List Char) (k : UInt64) : Prop where
  ne_nil : ds ≠ []
  isDigit : ∀ d ∈ ds, d.isDigit = true
  value_lt : Nat.ofDigitChars 10 ds 0 < UInt64.size
  value : UInt64.ofNat (Nat.ofDigitChars 10 ds 0) = k

/-- Digits, or a plus sign and digits. -/
inductive Index : List Char → UInt64 → Prop where
  | plain {ds : List Char} {k : UInt64} (h : Digits ds k) : Index ds k
  | signed {ds : List Char} {k : UInt64} (h : Digits ds k) : Index ('+' :: ds) k

/-- An index that may have blanks around it. -/
inductive Padded : List Char → UInt64 → Prop where
  | mk {before cs after : List Char} {k : UInt64} (hbefore : Blank before) (hafter : Blank after)
      (h : Index cs k) :
    Padded (before ++ (cs ++ after)) k

/-- Indices with commas between them. -/
inductive Listed : List Char → List UInt64 → Prop where
  | one {cs : List Char} {k : UInt64} (h : Padded cs k) : Listed cs [k]
  | more {cs rest : List Char} {k : UInt64} {ks : List UInt64} (h : Padded cs k)
      (hrest : Listed rest ks) :
    Listed (cs ++ ',' :: rest) (k :: ks)

/-- The specifier that a text spells, once the blanks at its ends are trimmed. -/
inductive Spells : List Char → Specifier → Prop where
  | whole : Spells [] whole
  | first {cs : List Char} (h : asciiLower cs = "first".toList) : Spells cs first
  | last {cs : List Char} (h : asciiLower cs = "last".toList) : Spells cs last
  | index {cs : List Char} {k : UInt64} (h : Index cs k) : Spells cs (index k)
  | range {a b : List Char} {i j : UInt64} (ha : Padded a i) (hb : Padded b j) :
      Spells (a ++ '-' :: b) (range i j)
  | pick {cs : List Char} {ks : List UInt64} (h : Listed cs ks) (hks : 2 ≤ ks.length) :
      Spells cs (pick ks)

variable {cs : List Char} {k : UInt64} {ks : List UInt64} {s : Specifier}

theorem index?_eq_some_iff : index? cs = some k ↔ Index cs k := by
  rw [index?, Option.map_eq_some_iff]
  constructor
  · rintro ⟨n, hn, rfl⟩
    obtain ⟨ds, hcs, hne, hdigits, rfl, hle⟩ := numeral?_eq_some_iff.mp hn
    have hvalue : Digits ds (UInt64.ofNat (Nat.ofDigitChars 10 ds 0)) :=
      ⟨hne, hdigits, Nat.lt_of_le_pred (by decide) hle, rfl⟩
    rcases hcs with rfl | rfl
    · exact .plain hvalue
    · exact .signed hvalue
  · intro h
    have hread {ds : List Char} (h : Digits ds k) (hcs : cs = ds ∨ cs = '+' :: ds) :
        ∃ n, word64? cs = some n ∧ UInt64.ofNat n = k :=
      ⟨_, numeral?_eq_some_iff.mpr ⟨ds, hcs, h.ne_nil, h.isDigit, rfl,
        Nat.le_pred_of_lt h.value_lt⟩, h.value⟩
    cases h with
    | plain h => exact hread h (.inl rfl)
    | signed h => exact hread h (.inr rfl)

/-- The characters of an index are digits and the sign. -/
theorem Index.char {c : Char} (h : Index cs k) (hc : c ∈ cs) : c.isDigit = true ∨ c = '+' := by
  cases h with
  | plain h => exact .inl (h.isDigit c hc)
  | signed h =>
    rcases List.mem_cons.mp hc with rfl | hc
    · exact .inr rfl
    · exact .inl (h.isDigit c hc)

theorem Index.exists_digit (h : Index cs k) : ∃ d ∈ cs, d.isDigit = true := by
  have hdigit {ds : List Char} (h : Digits ds k) : ∃ d ∈ ds, d.isDigit = true := by
    obtain ⟨d, ds, rfl⟩ := List.exists_cons_of_ne_nil h.ne_nil
    exact ⟨d, List.mem_cons_self, h.isDigit d List.mem_cons_self⟩
  cases h with
  | plain h => exact hdigit h
  | signed h =>
    obtain ⟨d, hd, hdigit⟩ := hdigit h
    exact ⟨d, List.mem_cons_of_mem _ hd, hdigit⟩

theorem Index.tidy (h : Index cs k) : Tidy cs := by
  apply tidy_of_forall
  intro c hc
  rcases h.char hc with hdigit | rfl
  · exact not_isBlank_of_isDigit hdigit
  · decide

theorem index?_trim_eq_some_iff : index? (trim cs) = some k ↔ Padded cs k := by
  rw [index?_eq_some_iff]
  constructor
  · intro h
    obtain ⟨before, after, hbefore, hafter, hcs⟩ := exists_trim cs
    rw [hcs]
    exact .mk hbefore hafter h
  · rintro ⟨hbefore, hafter, h⟩
    rwa [trim_blanks_append hbefore, trim_append_blanks hafter, trim_of_tidy h.tidy]

/-- Separators are not found in an index, with blanks or without. -/
theorem Padded.not_mem {c : Char} (h : Padded cs k) (hc : c = ',' ∨ c = '-') : c ∉ cs := by
  have hblank : isBlank c = false := by rcases hc with rfl | rfl <;> decide
  obtain ⟨hbefore, hafter, h⟩ := h
  intro hmem
  rcases List.mem_append.mp hmem with hmem | hmem
  · rw [hbefore c hmem] at hblank
    cases hblank
  · rcases List.mem_append.mp hmem with hmem | hmem
    · have hchar := h.char hmem
      rcases hc with rfl | rfl <;> exact absurd hchar (by decide)
    · rw [hafter c hmem] at hblank
      cases hblank

theorem Listed.mapM_splitOn (h : Listed cs ks) :
    (cs.splitOn ',').mapM (fun part => index? (trim part)) = some ks := by
  induction h with
  | one h =>
    rw [List.splitOn_eq_singleton (h.not_mem (.inl rfl)), List.mapM_cons,
      index?_trim_eq_some_iff.mpr h]
    rfl
  | more h _ ih =>
    rw [List.splitOn_append_cons_self, List.splitOn_eq_singleton (h.not_mem (.inl rfl)),
      List.singleton_append,
      List.mapM_cons, index?_trim_eq_some_iff.mpr h, ih]
    rfl

theorem listed_of_mapM {parts : List (List Char)} (hne : parts ≠ [])
    (h : parts.mapM (fun part => index? (trim part)) = some ks) :
    Listed ([','].intercalate parts) ks := by
  induction parts generalizing ks with
  | nil => exact absurd rfl hne
  | cons part parts ih =>
    obtain ⟨k, rest, hk, hrest, rfl⟩ := mapM_cons_eq_some h
    have hpart := index?_trim_eq_some_iff.mp hk
    cases parts with
    | nil =>
      cases hrest
      rw [List.intercalate_singleton]
      exact .one hpart
    | cons next parts =>
      rw [List.intercalate_cons_cons, List.append_assoc]
      exact .more hpart (ih (List.cons_ne_nil _ _) hrest)

theorem Listed.ne_nil (h : Listed cs ks) : ks ≠ [] := by
  cases h with
  | one => exact List.cons_ne_nil _ _
  | more => exact List.cons_ne_nil _ _

/-- A comma tells a list from a single index. -/
theorem Listed.mem_comma_iff (h : Listed cs ks) : ',' ∈ cs ↔ 2 ≤ ks.length := by
  cases h with
  | one h => exact iff_of_false (h.not_mem (.inl rfl)) (by simp)
  | more _ hrest =>
    exact iff_of_true (by simp) (Nat.succ_le_succ (List.length_pos_iff.mpr hrest.ne_nil))

theorem Index.ofIndices?_eq (h : Index cs k) : ofIndices? cs = some (.index k) := by
  have hcomma : ¬ cs.contains ',' = true :=
    fun hmem => absurd (h.char (List.contains_iff_mem.mp hmem)) (by decide)
  have hhyphen : cut ['-'] cs = none := cut_eq_none_iff.mpr fun hmem =>
    absurd (h.char hmem) (by decide)
  rw [ofIndices?, if_neg hcomma, hhyphen, index?_eq_some_iff.mpr h]
  rfl

theorem Padded.ofIndices?_eq {a b : List Char} {i j : UInt64} (ha : Padded a i) (hb : Padded b j) :
    ofIndices? (a ++ '-' :: b) = some (.range i j) := by
  have hcomma : ¬ (a ++ '-' :: b).contains ',' = true := by
    rw [List.contains_iff_mem]
    intro hmem
    rcases List.mem_append.mp hmem with hmem | hmem
    · exact ha.not_mem (.inl rfl) hmem
    · rcases List.mem_cons.mp hmem with heq | hmem
      · exact absurd heq (by decide)
      · exact hb.not_mem (.inl rfl) hmem
  rw [ofIndices?, if_neg hcomma, cut_eq_some_iff.mpr ⟨rfl, ha.not_mem (.inr rfl)⟩]
  dsimp only
  rw [index?_trim_eq_some_iff.mpr ha, index?_trim_eq_some_iff.mpr hb]
  rfl

theorem Listed.ofIndices?_eq (h : Listed cs ks) (hks : 2 ≤ ks.length) :
    ofIndices? cs = some (.pick ks) := by
  rw [ofIndices?, if_pos (List.contains_iff_mem.mpr (h.mem_comma_iff.mpr hks)), h.mapM_splitOn]
  rfl

theorem spells_of_ofIndices? (h : ofIndices? cs = some s) : Spells cs s := by
  unfold ofIndices? at h
  by_cases hcomma : cs.contains ',' = true
  · rw [if_pos hcomma] at h
    obtain ⟨ks, hks, rfl⟩ := Option.map_eq_some_iff.mp h
    have hlisted := listed_of_mapM (List.splitOn_ne_nil ',' cs) hks
    rw [List.intercalate_splitOn] at hlisted
    exact .pick hlisted (hlisted.mem_comma_iff.mp (List.contains_iff_mem.mp hcomma))
  · rw [if_neg hcomma] at h
    cases hcut : cut ['-'] cs with
    | some sides =>
      obtain ⟨a, b⟩ := sides
      obtain ⟨rfl, -⟩ := cut_eq_some_iff.mp hcut
      rw [hcut] at h
      obtain ⟨i, hi, h⟩ := Option.bind_eq_some_iff.mp h
      obtain ⟨j, hj, h⟩ := Option.bind_eq_some_iff.mp h
      cases h
      exact .range (index?_trim_eq_some_iff.mp hi) (index?_trim_eq_some_iff.mp hj)
    | none =>
      rw [hcut] at h
      obtain ⟨k, hk, rfl⟩ := Option.map_eq_some_iff.mp h
      exact .index (index?_eq_some_iff.mp hk)

theorem spells_of_parse? {text : String} (h : parse? text = some s) :
    Spells (trim text.toList) s := by
  unfold parse? at h
  dsimp only at h
  split at h
  · rename_i hnil
    cases h
    rw [List.map_eq_nil_iff.mp hnil]
    exact .whole
  · split at h
    · rename_i hfirst
      cases h
      exact .first hfirst
    · split at h
      · rename_i hlast
        cases h
        exact .last hlast
      · exact spells_of_ofIndices? h

/-- A text with a character that is in neither keyword is read as indices. -/
theorem parse?_of_mem {text : String} {c : Char} (hc : c ∈ trim text.toList)
    (hletter : c.toLower ∉ "firstlast".toList) : parse? text = ofIndices? (trim text.toList) := by
  have hlower : c.toLower ∈ (trim text.toList).map Char.toLower := List.mem_map_of_mem hc
  have hword {word : String} (hword : word.toList ⊆ "firstlast".toList) :
      (trim text.toList).map Char.toLower ≠ word.toList := by
    intro heq
    exact hletter (hword (heq ▸ hlower))
  have hnil : (trim text.toList).map Char.toLower ≠ [] := List.ne_nil_of_mem hlower
  have hfirst : (trim text.toList).map Char.toLower ≠ "first".toList := hword (by decide)
  have hlast : (trim text.toList).map Char.toLower ≠ "last".toList := hword (by decide)
  simp only [parse?, if_neg hnil, if_neg hfirst, if_neg hlast]

theorem toLower_not_mem_of_isDigit {d : Char} (h : d.isDigit = true) :
    d.toLower ∉ "firstlast".toList := by
  have hall : ("firstlast".toList.all fun c => !c.isDigit) = true := by decide
  rw [toLower_of_isDigit h]
  intro hmem
  have hnot := List.all_eq_true.mp hall d hmem
  rw [h] at hnot
  cases hnot

theorem parse?_of_spells {text : String} (h : Spells (trim text.toList) s) :
    parse? text = some s := by
  generalize htext : trim text.toList = cs at h
  have hindices {c : Char} (hc : c ∈ cs) (hletter : c.toLower ∉ "firstlast".toList) :
      parse? text = ofIndices? cs :=
    htext ▸ parse?_of_mem (htext ▸ hc) hletter
  cases h with
  | whole =>
    unfold parse?
    rw [htext]
    rfl
  | first h =>
    have hword : cs.map Char.toLower = "first".toList := h
    unfold parse?
    dsimp only
    rw [htext, hword]
    rfl
  | last h =>
    have hword : cs.map Char.toLower = "last".toList := h
    unfold parse?
    dsimp only
    rw [htext, hword]
    rfl
  | index h =>
    obtain ⟨d, hd, hdigit⟩ := h.exists_digit
    rw [hindices hd (toLower_not_mem_of_isDigit hdigit), h.ofIndices?_eq]
  | @range a b i j ha hb =>
    have hhyphen : '-' ∈ a ++ '-' :: b := by simp
    rw [hindices hhyphen (by decide), ha.ofIndices?_eq hb]
  | pick h hks => rw [hindices (h.mem_comma_iff.mpr hks) (by decide), h.ofIndices?_eq hks]

theorem parse?_iff_spells {text : String} : parse? text = some s ↔ Spells (trim text.toList) s :=
  ⟨spells_of_parse?, parse?_of_spells⟩

/-- Several indices are at least two. -/
def Proper : Specifier → Prop
  | pick ks => 2 ≤ ks.length
  | _ => True

theorem Spells.proper (h : Spells cs s) : s.Proper := by
  cases h with
  | pick _ hks => exact hks
  | _ => trivial

theorem proper_of_parse? {text : String} (h : parse? text = some s) : s.Proper :=
  (spells_of_parse? h).proper

theorem proper_iff : s.Proper ↔ ¬ ∃ ks, s = .pick ks ∧ ks.length < 2 := by
  cases s with
  | pick ks =>
    constructor
    · rintro hle ⟨_, ⟨⟩, hlt⟩
      exact absurd hlt (Nat.not_lt.mpr hle)
    · exact fun h => Nat.not_lt.mp fun hlt => h ⟨ks, rfl, hlt⟩
  | _ => exact iff_of_true trivial (by rintro ⟨_, ⟨⟩, _⟩)

theorem index_digits (k : UInt64) : Index (digits k.toNat) k := by
  refine .plain ⟨digits_ne_nil _, fun d => isDigit_of_mem_digits, ?_, ?_⟩
  · rw [ofDigitChars_digits]
    exact k.toNat_lt
  · rw [ofDigitChars_digits, UInt64.ofNat_toNat]

theorem padded_digits (k : UInt64) : Padded (digits k.toNat) k := by
  rw [← index?_trim_eq_some_iff, trim_of_tidy (index_digits k).tidy, index?_eq_some_iff]
  exact index_digits k

theorem part_digits (k : UInt64) : Part [] (digits k.toNat) :=
  ⟨digits_ne_nil _, (index_digits k).tidy, nofun⟩

theorem listed_join (hne : ks ≠ []) : Listed (join ',' (ks.map fun k => toString k.toNat)) ks := by
  induction ks with
  | nil => exact absurd rfl hne
  | cons k ks ih =>
    cases ks with
    | nil =>
      rw [List.map_singleton, join_singleton]
      exact .one (padded_digits k)
    | cons k' ks =>
      rw [List.map_cons, List.map_cons, join_cons_cons]
      exact .more (padded_digits k) (ih (List.cons_ne_nil _ _))

/-- What a specifier is written as spells it, and nothing of it is trimmed. -/
theorem spells_render (h : s.Proper) : Tidy s.render.toList ∧ Spells s.render.toList s := by
  cases s with
  | whole => exact ⟨tidy_of_forall nofun, .whole⟩
  | first => exact ⟨tidy_of_trim (by decide +kernel), .first (by decide)⟩
  | last => exact ⟨tidy_of_trim (by decide +kernel), .last (by decide)⟩
  | index k => exact ⟨(index_digits k).tidy, .index (index_digits k)⟩
  | range a b =>
    have htext : (render (.range a b)).toList = digits a.toNat ++ '-' :: digits b.toNat := by
      change (toString a.toNat ++ "-" ++ toString b.toNat).toList = _
      rw [String.toList_append, String.toList_append, List.append_assoc]
      rfl
    rw [htext]
    exact ⟨((part_digits a).append (part_digits b) List.not_mem_nil).tidy,
      .range (padded_digits a) (padded_digits b)⟩
  | pick ks =>
    have hne : ks ≠ [] := List.ne_nil_of_length_pos (Nat.lt_of_lt_of_le Nat.zero_lt_two h)
    have htext : (render (.pick ks)).toList = join ',' (ks.map fun k => toString k.toNat) := by
      rw [render, String.toList_intercalate]
      rfl
    have hparts : ∀ text ∈ ks.map (fun k => toString k.toNat), Part [] text.toList := by
      intro text hmem
      obtain ⟨k, -, rfl⟩ := List.mem_map.mp hmem
      exact part_digits k
    rw [htext]
    exact ⟨(part_join (mt List.map_eq_nil_iff.mp hne) hparts List.not_mem_nil).tidy,
      .pick (listed_join hne) h⟩

/-- A specifier is read as it is written. -/
theorem parse?_render (h : s.Proper) : parse? s.render = some s := by
  obtain ⟨htidy, hspells⟩ := spells_render h
  rw [parse?_iff_spells, trim_of_tidy htidy]
  exact hspells

theorem parse_ok_iff {text : String} : parse text = .ok s ↔ parse? text = some s := by
  rw [parse]
  cases parse? text with
  | none => exact ⟨nofun, nofun⟩
  | some s' => exact ⟨fun h => by cases h; rfl, fun h => by cases h; rfl⟩

theorem parse_error_iff {text : String} {e : Malformed} :
    parse text = .error e ↔ parse? text = none ∧ e = ⟨text⟩ := by
  rw [parse]
  cases parse? text with
  | none => exact ⟨fun h => by cases h; exact ⟨rfl, rfl⟩, fun h => by rw [h.2]⟩
  | some s' => exact ⟨nofun, nofun⟩

theorem exists_parse_iff : (∃ text, parse text = .ok s) ↔ s.Proper := by
  constructor
  · rintro ⟨text, h⟩
    exact proper_of_parse? (parse_ok_iff.mp h)
  · exact fun h => ⟨s.render, parse_ok_iff.mpr (parse?_render h)⟩

/-- A text is read as a specifier exactly if it spells it, blanks at its ends apart, and is refused
as a whole if it spells none. A specifier that was read is read again from what it is written as,
and all but picks of fewer than two indices are read from some text. -/
theorem specifiers_follow_grammar :
    (∀ (text : String) (s : Specifier), parse text = .ok s ↔ Spells (trim text.toList) s) ∧
    (∀ (text : String) (e : Malformed),
      parse text = .error e ↔ (∀ s, ¬ Spells (trim text.toList) s) ∧ e = ⟨text⟩) ∧
    (∀ (text : String) (s : Specifier), parse text = .ok s → parse s.render = .ok s) ∧
    ∀ s : Specifier, (∃ text, parse text = .ok s) ↔ ¬ ∃ ks, s = .pick ks ∧ ks.length < 2 := by
  refine ⟨fun text s => parse_ok_iff.trans parse?_iff_spells, fun text e => ?_, fun text s h => ?_,
    fun s => ?_⟩
  · rw [parse_error_iff, Option.eq_none_iff_forall_ne_some]
    exact and_congr_left fun _ => forall_congr' fun s => not_congr parse?_iff_spells
  · have hproper : s.Proper := exists_parse_iff.mp ⟨text, h⟩
    exact parse_ok_iff.mpr (parse?_render hproper)
  · exact exists_parse_iff.trans proper_iff

/-- A sign and the largest index, blanks around both indices and the text, and zeros that are not
written again. -/
theorem range_with_sign_and_zeros_is_read :
    parse "\u2003+18446744073709551615 - 007 " = .ok (.range 18446744073709551615 7) ∧
      parse "18446744073709551615-7" = .ok (.range 18446744073709551615 7) := by
  have hspells : Spells (trim "\u2003+18446744073709551615 - 007 ".toList)
      (.range 18446744073709551615 7) := by
    have htrim : trim "\u2003+18446744073709551615 - 007 ".toList =
        ([] ++ (('+' :: "18446744073709551615".toList) ++ [' '])) ++ '-' ::
          ([' '] ++ ("007".toList ++ [])) := by
      decide +kernel
    have hblank : Blank [' '] := List.all_eq_true.mp (by decide)
    have hlow : Digits "18446744073709551615".toList 18446744073709551615 :=
      ⟨by decide, List.all_eq_true.mp (by decide +kernel), by decide +kernel, by decide +kernel⟩
    have hhigh : Digits "007".toList 7 :=
      ⟨by decide, List.all_eq_true.mp (by decide +kernel), by decide +kernel, by decide +kernel⟩
    rw [htrim]
    exact .range (.mk nofun hblank (.signed hlow)) (.mk hblank nofun (.plain hhigh))
  have hread := (specifiers_follow_grammar.1 _ _).mpr hspells
  have hshown : render (.range 18446744073709551615 7) = "18446744073709551615-7" := by
    decide +kernel
  exact ⟨hread, hshown ▸ specifiers_follow_grammar.2.2.1 _ _ hread⟩

end Specifier

end FeatureFlow
