import FeatureFlow.Proofs.Guards
import FeatureFlow.Proofs.Observers
import FeatureFlow.Proofs.Wiring

/-! Activity labels. A label in canonical form is read as what it says, however it is spaced and
whatever the case of its keyword. A label whose keyword stands before a bracket starts nothing if
the bracket is not closed. -/
namespace FeatureFlow

namespace Text

variable {texts : List String} {cs : List Char}

/-- The words in their order, with blanks between them and maybe around them. -/
inductive Spaced : List String → List Char → Prop where
  | nil {gap : List Char} (hgap : Blank gap) : Spaced [] gap
  | cons {gap rest : List Char} {word : String} {texts : List String} (hgap : Blank gap)
      (hrest : Spaced texts rest) (hstart : ∀ c ∈ rest.head?, isBlank c = true) :
      Spaced (word :: texts) (gap ++ (word.toList ++ rest))

/-- A text without a blank or an opening bracket. -/
structure IsWord (word : String) : Prop where
  ne_empty : word ≠ ""
  chars : ∀ c ∈ word.toList, isBlank c = false ∧ c ≠ '<'

theorem IsWord.ne_nil {word : String} (h : IsWord word) : word.toList ≠ [] :=
  mt String.toList_eq_nil_iff.mp h.ne_empty

theorem IsWord.part {word : String} (h : IsWord word) : Part [] word.toList where
  ne_nil := h.ne_nil
  tidy := tidy_of_forall fun c hc => (h.chars c hc).1
  free := nofun

theorem Spaced.words_eq (h : Spaced texts cs) (hwords : ∀ word ∈ texts, IsWord word) :
    words cs = texts.map String.toList := by
  induction h with
  | nil hgap =>
    rename_i gap
    have hnil : words (gap ++ []) = words [] := words_blanks_append hgap
    rwa [List.append_nil] at hnil
  | @cons gap rest word texts hgap _ hstart ih =>
    obtain ⟨hword, htexts⟩ := List.forall_mem_cons.mp hwords
    have hself : words word.toList = [word.toList] :=
      words_of_not_isBlank hword.ne_nil fun c hc => (hword.chars c hc).1
    rw [words_blanks_append hgap, List.map_cons, ← ih htexts]
    cases rest with
    | nil => rw [List.append_nil, hself]; rfl
    | cons c rest =>
      have hc := hstart c rfl
      have hrest : words (c :: rest) = words rest := words_append_cons hc [] rest
      rw [words_append_cons hc, hself, hrest]
      rfl

theorem Spaced.ne_open (h : Spaced texts cs) (hwords : ∀ word ∈ texts, IsWord word) :
    ∀ c ∈ cs, c ≠ '<' := by
  have hblank {gap : List Char} (hgap : Blank gap) : ∀ c ∈ gap, c ≠ '<' := by
    rintro c hc rfl
    exact absurd (hgap '<' hc) (by decide)
  induction h with
  | nil hgap => exact hblank hgap
  | cons hgap _ _ ih =>
    obtain ⟨hword, htexts⟩ := List.forall_mem_cons.mp hwords
    intro c hc
    rcases List.mem_append.mp hc with hc | hc
    · exact hblank hgap c hc
    · rcases List.mem_append.mp hc with hc | hc
      · exact (hword.chars c hc).2
      · exact ih htexts c hc

end Text

namespace Activity

open Text

/-- The keyword as labels write it, up to the case of its letters. -/
def Keyword.name : Keyword → String
  | handler => "Handler"
  | observer => "Observer"
  | stateObserver => "StateObserver"

theorem Keyword.ofWord?_eq_some_iff {word : List Char} {k : Keyword} :
    ofWord? word = some k ↔ sameIgnoringCase (String.ofList word) k.name = true := by
  have hsame : sameIgnoringCase (String.ofList word) k.name = true ↔
      String.ofList (asciiLower word) = String.ofList (asciiLower k.name.toList) := by
    rw [sameIgnoringCase_iff, String.toList_ofList, String.ofList_inj]
  rw [hsame]
  constructor
  · intro h
    rw [ofWord?] at h
    split at h <;> cases h
    · rename_i heq
      exact heq.trans (by decide +kernel)
    · rename_i heq
      exact heq.trans (by decide +kernel)
    · rename_i heq
      exact heq.trans (by decide +kernel)
  · intro h
    rw [ofWord?, h]
    cases k <;> rfl

theorem Keyword.isWord_of_same {word : String} {k : Keyword}
    (h : sameIgnoringCase word k.name = true) :
    IsWord word := by
  have hlower := sameIgnoringCase_iff.mp h
  have hname : (k.name.toList.all fun c => !isBlank c) = true := by cases k <;> decide +kernel
  have hopen : (asciiLower k.name.toList).contains '<' = false := by cases k <;> decide +kernel
  have hne : asciiLower k.name.toList ≠ [] := by cases k <;> decide
  refine ⟨?_, fun c hc => ⟨?_, ?_⟩⟩
  · rintro rfl
    exact hne hlower.symm
  · exact not_isBlank_of_same h (fun d hd => by simpa using List.all_eq_true.mp hname d hd) c hc
  · rintro rfl
    have hmem : '<'.toLower ∈ asciiLower k.name.toList := hlower ▸ List.mem_map_of_mem hc
    rw [show '<'.toLower = '<' by decide] at hmem
    rw [List.contains_iff_mem.mpr hmem] at hopen
    cases hopen

/-- A text that names a subject in these words and ends with the keyword. -/
structure Heading (subject : List String) (k : Keyword) (head : String) : Prop where
  ne_nil : subject ≠ []
  words : ∀ word ∈ subject, IsWord word
  spaced : ∃ keyword, sameIgnoringCase keyword k.name = true ∧
    Spaced (subject ++ [keyword]) head.toList

section Headings

variable {subject : List String} {k : Keyword} {head : String} (h : Heading subject k head)
include h

theorem Heading.isWord {keyword word : String} (hkeyword : sameIgnoringCase keyword k.name = true)
    (hword : word ∈ subject ++ [keyword]) : IsWord word := by
  rcases List.mem_append.mp hword with hword | hword
  · exact h.words word hword
  · rw [List.mem_singleton.mp hword]
    exact Keyword.isWord_of_same hkeyword

theorem Heading.ne_open : ∀ c ∈ head.toList, c ≠ '<' := by
  obtain ⟨keyword, hkeyword, hspaced⟩ := h.spaced
  exact hspaced.ne_open fun _ => h.isWord hkeyword

/-- A label with this heading is about its subject, and its keyword says how the rest is read. -/
theorem Heading.parse_eq {label : String} {before : List Char} {suffix : Option (List Char)}
    (hsplit : splitSuffix (trim label.toList) = (before, suffix))
    (hbefore : Text.words before = Text.words head.toList) :
    parse label = ofKeyword (trim label.toList) (" ".intercalate subject) suffix k := by
  obtain ⟨keyword, hkeyword, hspaced⟩ := h.spaced
  have hwords : Text.words before = subject.map String.toList ++ [keyword.toList] := by
    rw [hbefore, hspaced.words_eq fun _ => h.isWord hkeyword, List.map_append]
    rfl
  have hofWord : Keyword.ofWord? keyword.toList = some k := by
    rwa [Keyword.ofWord?_eq_some_iff, String.ofList_toList]
  have hsubject : List.intercalate [' '] (subject.map String.toList) ≠ [] :=
    (part_join h.ne_nil (fun word hword => (h.words word hword).part) List.not_mem_nil).ne_nil
  have htext : String.ofList (List.intercalate [' '] (subject.map String.toList)) =
      " ".intercalate subject := by
    rw [← String.toList_inj, String.toList_ofList, String.toList_intercalate]
    rfl
  rw [parse_of_words hsplit hwords hofWord, if_neg hsubject, htext]

theorem Heading.parse_plain :
    parse head = ofKeyword (trim head.toList) (" ".intercalate subject) none k := by
  refine h.parse_eq (splitSuffix_plain fun c hc => ?_) (words_trim _)
  exact h.ne_open c (mem_of_mem_trim hc)

theorem Heading.parse_bracketed {after : String} (hafter : Blank after.toList) (inner : String) :
    ∃ label, parse (head ++ "<" ++ inner ++ ">" ++ after) =
      ofKeyword label (" ".intercalate subject) (some inner.toList) k := by
  have hlabel : (head ++ "<" ++ inner ++ ">" ++ after).toList =
      (head.toList ++ '<' :: (inner.toList ++ ['>'])) ++ after.toList := by
    simp [String.toList_append]
  refine ⟨_, h.parse_eq ?_ (words_trimLeft _)⟩
  rw [hlabel, trim_append_blanks hafter, trim_bracketed, splitSuffix_bracketed]
  intro c hc
  exact h.ne_open c ((List.dropWhile_suffix _).subset hc)

end Headings

end Activity

namespace Transition

open Text

variable {source target : List Char}

/-- The first mark is the one between the states, since the mark overlaps with itself only after
`_to`. -/
theorem cut_mark (hmark : ¬ mark <:+: source) (hend : ¬ "_to".toList <:+ source)
    (target : List Char) :
    cut mark (source ++ (mark ++ target)) = some (source, target) := by
  induction source with
  | nil => rfl
  | cons c source ih =>
    have hstart : ¬ mark.isPrefixOf (c :: (source ++ (mark ++ target))) = true := by
      rw [List.isPrefixOf_iff_prefix]
      rintro ⟨rest, hrest⟩
      rw [show mark = ['_', 't', 'o', '_'] by decide] at hrest
      rcases source with _ | ⟨d, _ | ⟨e, _ | ⟨g, more⟩⟩⟩ <;>
        simp only [List.cons_append, List.nil_append, List.cons.injEq] at hrest
      · exact absurd hrest.2.1 (by decide)
      · exact absurd hrest.2.2.1 (by decide)
      · obtain ⟨rfl, rfl, rfl, -⟩ := hrest
        exact hend List.suffix_rfl
      · obtain ⟨rfl, rfl, rfl, rfl, -⟩ := hrest
        exact hmark ⟨[], more, rfl⟩
    have hrest : ¬ mark <:+: source :=
      fun hinside => hmark (hinside.trans (List.suffix_cons c source).isInfix)
    have hlast : ¬ "_to".toList <:+ source :=
      fun hsuffix => hend (hsuffix.trans (List.suffix_cons c source))
    rw [List.cons_append, cut, if_neg hstart, ih hrest hlast]
    rfl

theorem parse?_joined {source target : String} (hsource : source ≠ "") (htarget : target ≠ "")
    (hsourceTidy : Tidy source.toList) (htargetTidy : Tidy target.toList)
    (hmark : ¬ mark <:+: source.toList) (hend : ¬ "_to".toList <:+ source.toList) :
    parse? (source ++ "_to_" ++ target).toList = some ⟨source, target⟩ := by
  have htext : (source ++ "_to_" ++ target).toList = source.toList ++ (mark ++ target.toList) := by
    rw [String.toList_append, String.toList_append, List.append_assoc]
    rfl
  rw [parse?_eq_some_iff, htext]
  refine ⟨source.toList, target.toList, cut_mark hmark hend _, ?_⟩
  rw [trim_of_tidy hsourceTidy, trim_of_tidy htargetTidy, String.ofList_toList,
    String.ofList_toList]
  exact ⟨mt String.toList_eq_nil_iff.mp hsource, mt String.toList_eq_nil_iff.mp htarget, rfl⟩

end Transition

namespace Activity

open Text

/-- A label that is written in words, with any blanks between them and around it and its keyword in
any case, is read as what it says: its subject, the guards that were read somewhere and are written
here, and the states of a transition, if no mark is to be found in the first or across its end. -/
theorem canonical_labels_read_back {subject : List String} {head after : String}
    (hafter : Blank after.toList) :
    (Heading subject .handler head →
      parse head = .ok (.event (" ".intercalate subject) []) ∧
      ∀ text gs, Guard.parse text = .ok gs →
        parse (head ++ "<" ++ Guard.renderAll gs ++ ">" ++ after) =
          .ok (.event (" ".intercalate subject) gs)) ∧
    (Heading subject .observer head → parse head = .ok (.repository (" ".intercalate subject))) ∧
    (Heading subject .stateObserver head →
      parse head = .ok (.state (" ".intercalate subject) none) ∧
      ∀ source target : String, source ≠ "" → target ≠ "" → Tidy source.toList →
        Tidy target.toList →
        ¬ "_to_".toList <:+: source.toList → ¬ "_to".toList <:+ source.toList →
        parse (head ++ "<" ++ (source ++ "_to_" ++ target) ++ ">" ++ after) =
          .ok (.state (" ".intercalate subject) (some ⟨source, target⟩))) := by
  refine ⟨fun h => ⟨h.parse_plain, fun text gs hread => ?_⟩, fun h => h.parse_plain, fun h =>
    ⟨h.parse_plain, ?_⟩⟩
  · obtain ⟨label, hlabel⟩ := h.parse_bracketed hafter (Guard.renderAll gs)
    rw [hlabel, ofKeyword, String.ofList_toList,
      Guard.parse_renderAll (Guard.normal_of_parse hread)]
  · intro source target hsource htarget hsourceTidy htargetTidy hmark hend
    obtain ⟨label, hlabel⟩ := h.parse_bracketed hafter (source ++ "_to_" ++ target)
    rw [hlabel, ofKeyword, Transition.parse?_joined hsource htarget hsourceTidy htargetTidy
      hmark hend]

/-- Guards and states with brackets, blanks and marks in them, under one subject. -/
theorem labels_with_brackets_and_marks_read_back :
    Blank " ".toList ∧ Heading ["Order", "Line>x"] .handler "\u2003Order \t Line>x hAnDLeR " ∧
      parse ("\u2003Order \t Line>x hAnDLeR " ++ "<" ++ Guard.renderAll [⟨["a"], ["x<y> z"]⟩] ++
        ">" ++ " ") =
        .ok (.event (" ".intercalate ["Order", "Line>x"]) [⟨["a"], ["x<y> z"]⟩]) ∧
      Heading ["Order", "Line>x"] .stateObserver "Order Line>x STATEobserver" ∧
      parse ("Order Line>x STATEobserver" ++ "<" ++ ("to_" ++ "_to_" ++ "_to_ x") ++ ">" ++ " ") =
        .ok (.state (" ".intercalate ["Order", "Line>x"]) (some ⟨"to_", "_to_ x"⟩)) := by
  have hblank (gap : List Char) (h : gap.all isBlank = true) : Blank gap := List.all_eq_true.mp h
  have hword (word : String) (hne : word ≠ "")
    (h : (word.toList.all fun c => !isBlank c && c != '<') = true) :
      IsWord word := ⟨hne, fun c hc => by simpa using List.all_eq_true.mp h c hc⟩
  have hwords : ∀ word ∈ ["Order", "Line>x"], IsWord word := by
    intro word hmem
    rcases List.mem_cons.mp hmem with rfl | hmem
    · exact hword _ (by decide) (by decide +kernel)
    · rw [List.mem_singleton.mp hmem]
      exact hword _ (by decide) (by decide +kernel)
  have hhandler : Heading ["Order", "Line>x"] .handler "\u2003Order \t Line>x hAnDLeR " := by
    refine ⟨by decide, hwords, "hAnDLeR", by decide +kernel, ?_⟩
    have hlist : "\u2003Order \t Line>x hAnDLeR ".toList =
      "\u2003".toList ++ ("Order".toList ++ (" \t ".toList ++
        ("Line>x".toList ++ (" ".toList ++ ("hAnDLeR".toList ++ " ".toList))))) := by decide
    rw [hlist]
    refine .cons (hblank _ (by decide)) (.cons (hblank _ (by decide)) (.cons (hblank _ (by decide))
      (.nil (hblank _ (by decide))) ?_) ?_) ?_ <;> rintro c ⟨⟩ <;> decide
  have hobserver : Heading ["Order", "Line>x"] .stateObserver "Order Line>x STATEobserver" := by
    refine ⟨by decide, hwords, "STATEobserver", by decide +kernel, ?_⟩
    have hlist : "Order Line>x STATEobserver".toList =
      [] ++ ("Order".toList ++ (" ".toList ++ ("Line>x".toList ++
        (" ".toList ++ ("STATEobserver".toList ++ []))))) := by decide
    rw [hlist]
    refine .cons (hblank _ (by decide)) (.cons (hblank _ (by decide)) (.cons (hblank _ (by decide))
      (.nil (hblank _ (by decide))) nofun) ?_) ?_ <;> rintro c ⟨⟩ <;> decide
  have hafter : Blank " ".toList := hblank _ (by decide)
  have hread : Guard.parse "a : X<Y> z" = .ok [⟨["a"], ["x<y> z"]⟩] :=
    eq_ok_of_toOption (by decide +kernel)
  have hguard := ((canonical_labels_read_back hafter).1 hhandler).2 _ _ hread
  have hstate := ((canonical_labels_read_back hafter).2.2 hobserver).2 "to_" "_to_ x" (by decide)
    (by decide)
    (tidy_of_trim (by decide +kernel)) (tidy_of_trim (by decide +kernel)) (by decide) (by decide)
  exact ⟨hafter, hhandler, hguard, hobserver, hstate⟩

/-- The keyword that a text ends with. -/
def lastKeyword? (cs : List Char) : Option Keyword := (words cs).getLast?.bind Keyword.ofWord?

/-- The keyword that a label has before its first bracket, or at its end if it has no bracket. -/
def trigger? (label : String) : Option Keyword := lastKeyword? (label.toList.takeWhile (· != '<'))

/-- A bracket is opened, and the label does not end with a closing one. -/
def Unclosed (label : String) : Prop := '<' ∈ label.toList ∧ (trim label.toList).getLast? ≠ some '>'

theorem ofKeyword_ne_other (label : List Char) (subject : String) (suffix : Option (List Char))
    (k : Keyword) :
    ofKeyword label subject suffix k ≠ .ok .other := by
  intro h
  cases k with
  | handler =>
    cases suffix with
    | none => cases h
    | some text =>
      rw [ofKeyword] at h
      cases hguards : Guard.parse (String.ofList text) <;> rw [hguards] at h <;> cases h
  | observer => cases h
  | stateObserver =>
    cases suffix with
    | none => cases h
    | some text =>
      rw [ofKeyword] at h
      cases htransition : Transition.parse? text <;> rw [htransition] at h <;> cases h

/-- Only the words before the suffix decide whether a label starts something. -/
theorem parse_eq_other_iff {label : String} :
    parse label = .ok .other ↔ lastKeyword? (splitSuffix (trim label.toList)).1 = none := by
  unfold parse
  dsimp only
  rw [← lastKeyword?]
  cases lastKeyword? (splitSuffix (trim label.toList)).1 with
  | none => exact iff_of_true rfl rfl
  | some k =>
    refine iff_of_false ?_ nofun
    dsimp only
    split
    · exact nofun
    · exact ofKeyword_ne_other _ _ _ _

theorem takeWhile_append_of_not_mem {before : List Char} (h : '<' ∉ before) (after : List Char) :
    (before ++ after).takeWhile (· != '<') = before ++ after.takeWhile (· != '<') := by
  apply List.takeWhile_append_of_pos
  intro c hc
  rw [bne_iff_ne]
  rintro rfl
  exact h hc

theorem splitSuffix_trim {cs before after : List Char} (hcs : cs = before ++ '<' :: after)
    (hopen : '<' ∉ before) :
    splitSuffix (trim cs) =
      if (trim cs).getLast? = some '>' then (trimLeft before, some (trimRight after).dropLast)
      else (trim cs, none) := by
  rw [splitSuffix, cut_trim (by decide), cut_eq_some_iff.mpr ⟨hcs, hopen⟩]
  rfl

/-- With an open bracket the whole label is searched for a keyword, otherwise what stands before the
first one. -/
theorem lastKeyword?_splitSuffix (label : String) :
    (Unclosed label → lastKeyword? (splitSuffix (trim label.toList)).1 =
      lastKeyword? label.toList) ∧
    (¬ Unclosed label → lastKeyword? (splitSuffix (trim label.toList)).1 = trigger? label) := by
  unfold trigger? lastKeyword? Unclosed
  by_cases hmem : '<' ∈ label.toList
  · obtain ⟨before, after, hlabel, hopen⟩ := List.eq_append_cons_of_mem hmem
    have hhead : label.toList.takeWhile (· != '<') = before := by
      rw [hlabel, takeWhile_append_of_not_mem hopen, List.takeWhile_cons_of_neg (by decide),
        List.append_nil]
    rw [splitSuffix_trim hlabel hopen, hhead]
    by_cases hlast : (trim label.toList).getLast? = some '>'
    · rw [if_pos hlast, words_trimLeft]
      exact ⟨fun h => absurd hlast h.2, fun _ => rfl⟩
    · rw [if_neg hlast, words_trim]
      exact ⟨fun _ => rfl, fun h => absurd ⟨hmem, hlast⟩ h⟩
  · have hplain : splitSuffix (trim label.toList) = (trim label.toList, none) := by
      apply splitSuffix_plain
      rintro c hc rfl
      exact hmem (mem_of_mem_trim hc)
    have hhead : label.toList.takeWhile (· != '<') = label.toList := by
      have hall := takeWhile_append_of_not_mem hmem []
      rwa [List.append_nil, List.takeWhile_nil, List.append_nil] at hall
    rw [hplain, hhead, words_trim]
    exact ⟨fun h => absurd h.1 hmem, fun _ => rfl⟩

/-- A label with a keyword before its first bracket starts nothing exactly if the bracket is not
closed and the label does not end with a keyword. In an application that starts, its feature set
then runs for no emission; any other such label is bound to what starts its feature set, so a
malformed one keeps the application from starting. -/
theorem trigger_ignored_iff_unclosed {label : String} (h : (trigger? label).isSome = true) :
    (parse label = .ok .other ↔ Unclosed label ∧ lastKeyword? label.toList = none) ∧
    ∀ (registry : Registry) (limits : Limits) (contract : Option Contract) (app : Application)
      (loaded : Engine),
      Engine.load registry limits contract app = .ok loaded → ∀ f ∈ app.named, f.activity = label →
        (Unclosed label ∧ lastKeyword? label.toList = none → ∀ emission,
          f ∉ loaded.handlers emission) ∧
        (¬ (Unclosed label ∧ lastKeyword? label.toList = none) →
          ∃ activity, parse label = .ok activity ∧ activity ≠ .other) := by
  obtain ⟨hunclosed, hclosed⟩ := lastKeyword?_splitSuffix label
  have hother : parse label = .ok .other ↔ Unclosed label ∧ lastKeyword? label.toList = none := by
    rw [parse_eq_other_iff]
    by_cases hlabel : Unclosed label
    · rw [hunclosed hlabel]
      exact ⟨fun hnone => ⟨hlabel, hnone⟩, fun hboth => hboth.2⟩
    · obtain ⟨k, hk⟩ := Option.isSome_iff_exists.mp h
      rw [hclosed hlabel, hk]
      exact ⟨nofun, fun hboth => absurd hboth.1 hlabel⟩
  refine ⟨hother, ?_⟩
  rintro registry limits contract app loaded hload f hf rfl
  constructor
  · intro hignored emission hmem
    rw [Engine.load_handlers hload] at hmem
    have hawaits := (List.mem_filter.mp hmem).2
    rw [FeatureSet.awaits, hother.mpr hignored] at hawaits
    cases emission <;> cases hawaits
  · intro hbound
    obtain ⟨routes, -, hstartable, -⟩ := Engine.load_ok_iff.mp hload
    obtain ⟨activity, hactivity⟩ := hstartable.labels f hf
    refine ⟨activity, hactivity, ?_⟩
    rintro rfl
    exact hbound (hother.mp hactivity)

/-- The bracket is open in both labels, and the second one ends with a keyword. -/
theorem open_brackets_with_and_without_keyword :
    parse "E Handler<status: paid" = .ok .other ∧
      parse "E Handler<status Observer" ≠ .ok .other := by
  have hignored : Unclosed "E Handler<status: paid" ∧
      lastKeyword? "E Handler<status: paid".toList = none :=
    ⟨⟨by decide, by decide +kernel⟩, Option.isNone_iff_eq_none.mp (by decide +kernel)⟩
  have hbound : (lastKeyword? "E Handler<status Observer".toList).isSome = true := by decide +kernel
  refine ⟨(trigger_ignored_iff_unclosed (by decide +kernel)).1.mpr hignored, fun hother => ?_⟩
  have hnone := ((trigger_ignored_iff_unclosed (by decide +kernel)).1.mp hother).2
  rw [hnone] at hbound
  cases hbound

/-- The guard has neither a colon nor a closing bracket, and the application starts without a
handler. -/
theorem unclosed_guard_is_ignored :
    (trigger? "E Handler<status").isSome = true ∧ parse "E Handler<status" = .ok .other ∧
    ∃ loaded, Engine.load .builtins {} none ⟨"app", [⟨"onE", "E Handler<status", []⟩]⟩ =
      .ok loaded ∧
      ∀ emission, loaded.handlers emission = [] := by
  have hother : parse "E Handler<status" = .ok .other := eq_ok_of_toOption (by decide +kernel)
  let app : Application := ⟨"app", [⟨"onE", "E Handler<status", []⟩]⟩
  have hstartable : app.Startable [] := Application.problems_eq_nil.mp (by decide +kernel)
  let loaded : Engine := (Engine.addAll { name := "app", registry := .builtins } app.featureSets).2
  have hload : Engine.load .builtins {} none app = .ok loaded :=
    Engine.load_ok_iff.mpr ⟨none, rfl, hstartable, rfl⟩
  refine ⟨by decide +kernel, hother, loaded, hload, fun emission => ?_⟩
  rw [Engine.load_handlers hload]
  have hnamed : app.named = [⟨"onE", "E Handler<status", []⟩] := rfl
  have hawaits : FeatureSet.awaits ⟨"onE", "E Handler<status", []⟩ emission = false := by
    rw [FeatureSet.awaits, hother]
    cases emission <;> rfl
  rw [hnamed, List.filter_cons, hawaits]
  rfl

end Activity

end FeatureFlow
