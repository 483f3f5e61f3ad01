import FeatureFlow.Proofs.Cuts
import FeatureFlow.Proofs.Fields

/-! Transitions that are accepted and observers of them agree on what a label says: the one that
accepts cuts its label as it stands, the one that observes finds the label in brackets and trims its
two sides. -/
namespace FeatureFlow

namespace Activity

variable {head inner : List Char}

theorem trim_bracketed (head inner : List Char) :
    Text.trim (head ++ '<' :: (inner ++ ['>'])) =
      Text.trimLeft head ++ '<' :: (inner ++ ['>']) := by
  rw [Text.trim_append_cons (by decide), Text.trimRight_append_cons (by decide)]
  rfl

theorem splitSuffix_bracketed (h : ∀ c ∈ head, c ≠ '<') :
    splitSuffix (head ++ '<' :: (inner ++ ['>'])) = (head, some inner) := by
  have hlast : (head ++ '<' :: (inner ++ ['>'])).getLast? = some '>' := by
    rw [← List.cons_append, ← List.append_assoc, List.getLast?_append, List.getLast?_singleton,
      Option.some_or]
  rw [splitSuffix, Text.cut_append_cons h]
  dsimp only
  rw [if_pos hlast, List.dropLast_concat]

theorem splitSuffix_plain (h : ∀ c ∈ head, c ≠ '<') : splitSuffix head = (head, none) := by
  rw [splitSuffix, Text.cut_of_forall_ne h]

/-- A label whose last word is a keyword is read by the keyword, if other words go before. -/
theorem parse_of_words {text : String} {suffix : Option (List Char)} {words : List (List Char)}
    {word : List Char} {keyword : Keyword}
    (hsplit : splitSuffix (Text.trim text.toList) = (head, suffix))
    (hwords : Text.words head = words ++ [word]) (hkeyword : Keyword.ofWord? word = some keyword) :
    parse text =
      if List.intercalate [' '] words = [] then .error
        (.missingSubject (String.ofList (Text.trim text.toList)))
      else ofKeyword (Text.trim text.toList)
        (String.ofList (List.intercalate [' '] words)) suffix keyword := by
  unfold parse
  dsimp only
  rw [hsplit]
  dsimp only
  rw [hwords, List.getLast?_append, List.getLast?_singleton, Option.some_or,
    Option.bind_some, hkeyword,
    List.dropLast_concat]

def observerKeyword : List Char := "StateObserver".toList

theorem words_observer (subject : List Char) :
    Text.words (subject ++ ' ' :: observerKeyword) = Text.words subject ++ [observerKeyword] := by
  have hkeyword : Text.words observerKeyword = [observerKeyword] := by decide +kernel
  rw [Text.words_append_cons (by decide), hkeyword]

theorem ofWord?_observer : Keyword.ofWord? observerKeyword = some .stateObserver := by
  unfold Keyword.ofWord?
  have hlower : String.ofList (Text.asciiLower observerKeyword) = "stateobserver" := by
    decide +kernel
  rw [hlower]
  rfl

theorem ne_open_of_observer {subject : List Char} (h : ∀ c ∈ subject, c ≠ '<') :
    ∀ c ∈ subject ++ ' ' :: observerKeyword, c ≠ '<' := by
  intro c hc
  rcases List.mem_append.mp hc with hc | hc
  · exact h c hc
  · rintro rfl
    exact absurd hc (by decide)

/-- An observer with a transition is one for the words before the keyword, if the brackets hold a
transition. -/
theorem parse_observer_iff {subject inner field : String} {transition : Option Transition}
    (h : ∀ c ∈ subject.toList, c ≠ '<') :
    parse (subject ++ " StateObserver<" ++ inner ++ ">") = .ok (.state field transition) ↔
      Text.words subject.toList ≠ [] ∧
      field = String.ofList (List.intercalate [' '] (Text.words subject.toList)) ∧
      ∃ t, Transition.parse? inner.toList = some t ∧ transition = some t := by
  have hlabel : (subject ++ " StateObserver<" ++ inner ++ ">").toList =
      (subject.toList ++ ' ' :: observerKeyword) ++ '<' :: (inner.toList ++ ['>']) := by
    have hmiddle : " StateObserver<".toList = (' ' :: observerKeyword) ++ ['<'] := by decide
    rw [String.toList_append, String.toList_append, String.toList_append, hmiddle,
      List.append_assoc,
      List.append_assoc, List.append_assoc, List.append_assoc]
    rfl
  have hsplit : splitSuffix (Text.trim (subject ++ " StateObserver<" ++ inner ++ ">").toList) =
      (Text.trimLeft (subject.toList ++ ' ' :: observerKeyword), some inner.toList) := by
    rw [hlabel, trim_bracketed, splitSuffix_bracketed]
    intro c hc
    exact ne_open_of_observer h c ((List.dropWhile_suffix _).subset hc)
  have hwords := (Text.words_trimLeft _).trans (words_observer subject.toList)
  rw [parse_of_words hsplit hwords ofWord?_observer]
  by_cases hnone : Text.words subject.toList = []
  · rw [if_pos (Text.intercalate_words_eq_nil.mpr hnone)]
    exact ⟨nofun, fun hsome => absurd hnone hsome.1⟩
  · rw [if_neg (mt Text.intercalate_words_eq_nil.mp hnone), ofKeyword]
    cases Transition.parse? inner.toList with
    | none => exact ⟨nofun, fun ⟨_, _, _, ht, _⟩ => nomatch ht⟩
    | some t =>
      constructor
      · rintro ⟨⟩
        exact ⟨hnone, rfl, t, rfl, rfl⟩
      · rintro ⟨-, rfl, _, ⟨⟩, rfl⟩
        rfl

theorem parse_plain_observer {field : String} (hne : field ≠ "")
    (h : ∀ c ∈ field.toList, Text.isBlank c = false ∧ c ≠ '<') :
    parse (field ++ " StateObserver") = .ok (.state field none) := by
  have hlabel : (field ++ " StateObserver").toList = field.toList ++ ' ' :: observerKeyword :=
    String.toList_append
  have hcons : field.toList ≠ [] := mt String.toList_eq_nil_iff.mp hne
  have htrim : Text.trim (field ++ " StateObserver").toList =
      field.toList ++ ' ' :: observerKeyword := by
    have hfield : Text.Tidy field.toList := Text.tidy_of_forall fun c hc => (h c hc).1
    have hkeyword : Text.Tidy observerKeyword := Text.tidy_of_trim (by decide +kernel)
    rw [hlabel]
    exact Text.trim_of_tidy (hfield.append hkeyword hcons (by decide) [' '])
  have hsplit : splitSuffix (Text.trim (field ++ " StateObserver").toList) =
      (field.toList ++ ' ' :: observerKeyword, none) := by
    rw [htrim, splitSuffix_plain (ne_open_of_observer fun c hc => (h c hc).2)]
  have hwords : Text.words field.toList = [field.toList] :=
    Text.words_of_not_isBlank hcons fun c hc => (h c hc).1
  rw [parse_of_words hsplit (words_observer field.toList) ofWord?_observer, hwords,
    List.intercalate_singleton,
    if_neg hcons, String.ofList_toList]
  rfl

end Activity

theorem Transition.parse?_eq_some_iff {text : List Char} {t : Transition} :
    parse? text = some t ↔ ∃ source target, Text.cut mark text = some (source, target) ∧
      Text.trim source ≠ [] ∧ Text.trim target ≠ [] ∧
      t = ⟨String.ofList (Text.trim source), String.ofList (Text.trim target)⟩ := by
  unfold parse?
  cases Text.cut mark text with
  | none => exact ⟨nofun, fun ⟨_, _, hcut, _⟩ => nomatch hcut⟩
  | some sides =>
    obtain ⟨source, target⟩ := sides
    dsimp only
    by_cases hsides : Text.trim source ≠ [] ∧ Text.trim target ≠ []
    · rw [if_pos hsides]
      constructor
      · rintro ⟨⟩
        exact ⟨source, target, rfl, hsides.1, hsides.2, rfl⟩
      · rintro ⟨_, _, ⟨⟩, -, -, rfl⟩
        rfl
    · rw [if_neg hsides]
      constructor
      · nofun
      · rintro ⟨_, _, ⟨⟩, hsource, htarget, -⟩
        exact absurd ⟨hsource, htarget⟩ hsides

/-- Blanks around its field and the sides of its transition, and the case of ASCII letters, make no
difference to what an observer sees. -/
theorem StateObserver.accepts_iff {other inner observed : String} {transition : Option Transition}
    {change : StateChange} {f : FeatureSet}
    (hfield : ∀ ch ∈ change.field.toList, Text.isBlank ch = false)
    (hother : ∀ ch ∈ other.toList, ch ≠ '<')
    (h : Activity.parse (other ++ " StateObserver<" ++ inner ++ ">") =
      .ok (.state observed transition)) :
    (StateObserver.mk observed transition f).accepts change = true ↔
      Text.sameIgnoringCase (String.ofList (Text.trim other.toList)) change.field = true ∧
      ∃ source target, Text.cut Transition.mark inner.toList = some (source, target) ∧
        Text.sameIgnoringCase (String.ofList (Text.trim source)) change.transition.source = true ∧
        Text.sameIgnoringCase (String.ofList (Text.trim target)) change.transition.target =
          true := by
  obtain ⟨hwords, rfl, t, ht, rfl⟩ := (Activity.parse_observer_iff hother).mp h
  obtain ⟨source, target, hcut, -, -, rfl⟩ := Transition.parse?_eq_some_iff.mp ht
  rw [← Text.same_words_iff hfield hwords]
  simp only [accepts, Option.all_some, Bool.and_eq_true, hcut, Option.some.injEq, Prod.mk.injEq]
  constructor
  · rintro ⟨hsame, hsource, htarget⟩
    exact ⟨hsame, source, target, ⟨rfl, rfl⟩, hsource, htarget⟩
  · rintro ⟨hsame, _, _, ⟨rfl, rfl⟩, hsource, htarget⟩
    exact ⟨hsame, hsource, htarget⟩

section Agreement

variable {others : Services → Services → Prop} {registry : Registry} {c : Command}
    {w w' : World Invocation} {flow : Flow} {name field label : String} {path : List String}
    {specifier : Specifier} {source target : List Char}

/-- A transition that a command accepts is seen by the observers whose labels name its field and its
label, or its field alone. An observer of any field and label sees it only if both agree with its
own, blanks around them and the case of ASCII letters apart. -/
theorem accept_and_observers_agree (hready : w.ready registry c = .ok (some Action.accept))
    (hrun : Yields others (Exec.runCommand registry c) w (.ok flow) w')
    (hobject : c.object.source = .reference name path specifier)
    (hfield : path.getLast? = some field) (hne : field ≠ "")
    (hword : ∀ ch ∈ field.toList, Text.isBlank ch = false ∧ ch ≠ '<')
    (hlabel : c.result.qualifier.getD c.result.name = label)
    (hcut : Text.cut Transition.mark label.toList = some (source, target))
    (hsource : source ≠ [] ∧ Text.Tidy source) (htarget : target ≠ [] ∧ Text.Tidy target) :
    ∃ change, w'.own.outbox = w.own.outbox ++ [.state change] ∧ ∀ f : FeatureSet,
      (∃ t, Activity.parse (field ++ " StateObserver<" ++ label ++ ">") =
        .ok (.state field (some t)) ∧
        (StateObserver.mk field (some t) f).accepts change = true) ∧
      (Activity.parse (field ++ " StateObserver") = .ok (.state field none) ∧
        (StateObserver.mk field none f).accepts change = true) ∧
      ∀ other inner observed transition, (∀ ch ∈ other.toList, ch ≠ '<') →
        Activity.parse (other ++ " StateObserver<" ++ inner ++ ">") =
          .ok (.state observed transition) →
        ((StateObserver.mk observed transition f).accepts change = true ↔
          Text.sameIgnoringCase (String.ofList (Text.trim other.toList)) field = true ∧
          ∃ source' target', Text.cut Transition.mark inner.toList = some (source', target') ∧
            Text.sameIgnoringCase (String.ofList (Text.trim source'))
              (String.ofList source) = true ∧
            Text.sameIgnoringCase (String.ofList (Text.trim target')) (String.ofList target) =
              true) := by
  obtain ⟨a, path', rfl, ht, ⟨_, hsame⟩, hlast, -⟩ := Exec.accepted_of_yields hready hrun
  obtain ⟨hname, rfl, -⟩ := Expression.reference.inj (hsame.symm.trans hobject)
  obtain rfl : field = a.field := Option.some.inj (hfield.symm.trans hlast)
  have htransition : a.transition = ⟨String.ofList source, String.ofList target⟩ := by
    rw [Action.transitionOf_ok_iff, hlabel, Transition.cut?, hcut] at ht
    exact (Option.some.inj ht).symm
  have hblank : ∀ ch ∈ a.field.toList, Text.isBlank ch = false := fun ch hch => (hword ch hch).1
  have hopen : ∀ ch ∈ a.field.toList, ch ≠ '<' := fun ch hch => (hword ch hch).2
  refine ⟨⟨w.shared.fresh, a.field, a.transition, a.entity⟩, rfl, fun f =>
    ⟨⟨a.transition, ?_, ?_⟩, ⟨?_, ?_⟩, ?_⟩⟩
  · have hcons : a.field.toList ≠ [] := mt String.toList_eq_nil_iff.mp hne
    rw [Activity.parse_observer_iff hopen, Text.words_of_not_isBlank hcons hblank]
    refine ⟨List.cons_ne_nil _ _, ?_, a.transition, ?_, rfl⟩
    · rw [List.intercalate_singleton, String.ofList_toList]
    · rw [Transition.parse?_eq_some_iff, htransition]
      refine ⟨source, target, hcut, ?_⟩
      rw [Text.trim_of_tidy hsource.2, Text.trim_of_tidy htarget.2]
      exact ⟨hsource.1, htarget.1, rfl⟩
  · simp [StateObserver.accepts, Text.sameIgnoringCase_refl]
  · exact Activity.parse_plain_observer hne hword
  · simp [StateObserver.accepts, Text.sameIgnoringCase_refl]
  · intro other inner observed transition hother hparse
    rw [StateObserver.accepts_iff hblank hother hparse, htransition]

end Agreement

/-- An order is taken from one state to another by a label that names both. -/
theorem World.accepts_status {w : World Invocation} {label state : String} {t : Transition}
    (horder : w.own.scope.resolve w.shared.symbols "order" =
      some (.map [("status", .string state)]))
    (hlabel : Transition.cut? label.toList = some t)
    (hstate : Text.sameIgnoringCase state t.source = true) :
    let c : Command := ⟨"Accept", ⟨"t", some label, .whole⟩,
      ⟨.on, .reference "order" ["status"] .whole, none⟩, none⟩
    w.ready Registry.builtins c = .ok (some Action.accept) ∧
      ∃ entity, Yields anything (Exec.runCommand Registry.builtins c) w (.ok .proceed)
        (w.accepted ⟨"order", "status", t, entity⟩) := by
  intro c
  have hverb : Registry.lower "Accept" = "accept" := by decide +kernel
  have hready : w.ready Registry.builtins c = .ok (some Action.accept) :=
    World.ready_accept hverb rfl rfl
  have htransition : Action.transitionOf c.result = .ok t := Action.transitionOf_ok_iff.mpr hlabel
  obtain ⟨entity, hput⟩ : ∃ entity, Value.put (.string t.target) ["status"]
      (.map [("status", .string state)]) = .ok entity := ⟨_, rfl⟩
  have hget : (Value.map [("status", .string state)]).get? ["status"] = some (.string state) := rfl
  have hacceptance : Action.acceptance (w.own.scope.resolve w.shared.symbols) c.result c.object =
      (Value.put (.string t.target) ["status"] (.map [("status", .string state)])).map
        fun entity => ⟨"order", "status", t, entity⟩ :=
    Action.acceptance_of_state htransition (Action.fieldOf_ok_iff.mpr ⟨⟨_, rfl⟩, rfl⟩) horder hget
      hstate
  refine ⟨hready, entity, ?_⟩
  rw [Exec.yields_accept hready, hacceptance, hput]
  exact ⟨rfl, rfl⟩

theorem ne_bracket_of_all (text : String) (h : text.toList.all (· != '<') = true) :
    ∀ ch ∈ text.toList, ch ≠ '<' := by
  intro ch hch
  simpa using List.all_eq_true.mp h ch hch

/-- A label with brackets and a second mark in its states. The last observer asks for another
state. -/
theorem observers_of_bracketed_states :
    let order : Value := .map [("status", .string "A<b")]
    let c : Command := ⟨"Accept", ⟨"t", some "a<b_to_c>_to_d", .whole⟩,
      ⟨.on, .reference "order" ["status"] .whole, none⟩, none⟩
    let w : World Invocation := ⟨{ scope := Scope.bind { name := "job" } "order" order }, {}⟩
    let f : FeatureSet := ⟨"audit", "", []⟩
    ∃ w' change, Yields anything (Exec.runCommand Registry.builtins c) w (.ok .proceed) w' ∧
      w'.own.outbox = [.state change] ∧
      (∃ t, Activity.parse ("status" ++ " StateObserver<" ++ "a<b_to_c>_to_d" ++ ">") =
          .ok (.state "status" (some t)) ∧
        (StateObserver.mk "status" (some t) f).accepts change = true) ∧
      (∃ field t, Activity.parse (" Status" ++ " StateObserver<" ++ " A<B _to_ C>_to_D " ++ ">") =
          .ok (.state field t) ∧
        (StateObserver.mk field t f).accepts change = true) ∧
      ∃ field t, Activity.parse ("status" ++ " StateObserver<" ++ "a_to_d" ++ ">") =
          .ok (.state field t) ∧
        (StateObserver.mk field t f).accepts change = false := by
  intro order c w f
  have hlabel : Transition.cut? "a<b_to_c>_to_d".toList = some ⟨"a<b", "c>_to_d"⟩ := by
    decide +kernel
  obtain ⟨hready, entity, hrun⟩ :=
    World.accepts_status (w := w) rfl hlabel (by decide +kernel)
  have hword : ∀ ch ∈ "status".toList, Text.isBlank ch = false ∧ ch ≠ '<' := by
    have hall : ("status".toList.all fun ch => !Text.isBlank ch && ch != '<') = true := by
      decide +kernel
    intro ch hch
    simpa using List.all_eq_true.mp hall ch hch
  have hcut : Text.cut Transition.mark "a<b_to_c>_to_d".toList =
      some ("a<b".toList, "c>_to_d".toList) := by
    decide +kernel
  obtain ⟨change, houtbox, hobservers⟩ :=
    accept_and_observers_agree hready hrun rfl rfl (by decide) hword rfl hcut
      ⟨by decide, Text.tidy_of_trim (by decide +kernel)⟩
      ⟨by decide, Text.tidy_of_trim (by decide +kernel)⟩
  obtain ⟨hown, -, hany⟩ := hobservers f
  refine ⟨_, change, hrun, houtbox, hown, ?_, ?_⟩
  · have hfield := ne_bracket_of_all " Status" (by decide +kernel)
    have hparse : Activity.parse (" Status" ++ " StateObserver<" ++ " A<B _to_ C>_to_D " ++ ">") =
        .ok (.state "Status" (some ⟨"A<B", "C>_to_D"⟩)) :=
      (Activity.parse_observer_iff hfield).mpr
        ⟨by decide +kernel, by decide +kernel, _, by decide +kernel, rfl⟩
    refine ⟨_, _, hparse, (hany _ _ _ _ hfield hparse).mpr ⟨by decide +kernel, ?_⟩⟩
    exact ⟨" A<B ".toList, " C>_to_D ".toList, by decide +kernel, by decide +kernel,
      by decide +kernel⟩
  · have hfield := ne_bracket_of_all "status" (by decide +kernel)
    have hparse : Activity.parse ("status" ++ " StateObserver<" ++ "a_to_d" ++ ">") =
        .ok (.state "status" (some ⟨"a", "d"⟩)) :=
      (Activity.parse_observer_iff hfield).mpr
        ⟨by decide +kernel, by decide +kernel, _, by decide +kernel, rfl⟩
    refine ⟨_, _, hparse, Bool.eq_false_iff.mpr fun haccepts => ?_⟩
    obtain ⟨-, source, target, hsides, hsource, -⟩ := (hany _ _ _ _ hfield hparse).mp haccepts
    have hcut' : Text.cut Transition.mark "a_to_d".toList = some ("a".toList, "d".toList) := by
      decide +kernel
    cases hcut'.symm.trans hsides
    exact absurd hsource (by decide +kernel)

/-- Two observers of other fields than the accepted one. A blank before the name does not count, and
of two pairs of brackets the label begins in the first. -/
theorem observers_of_other_fields_accept :
    let order : Value := .map [("status", .string "a")]
    let label : String := "a_to_b> StateObserver<M"
    let c : Command := ⟨"Accept", ⟨"t", some label, .whole⟩,
      ⟨.on, .reference "order" ["status"] .whole, none⟩, none⟩
    let w : World Invocation := ⟨{ scope := Scope.bind { name := "job" } "order" order }, {}⟩
    let f : FeatureSet := ⟨"audit", "", []⟩
    ∃ w' change t, Yields anything (Exec.runCommand Registry.builtins c) w (.ok .proceed) w' ∧
      w'.own.outbox = [.state change] ∧
      (Activity.parse (" status" ++ " StateObserver<" ++ label ++ ">") =
          .ok (.state "status" (some t)) ∧
        Activity.parse ("status StateObserver<a_to_b>" ++ " StateObserver<" ++ "M" ++ ">") =
          .ok (.state "status" (some t)) ∧
        (StateObserver.mk "status" (some t) f).accepts change = true) ∧
      Text.sameIgnoringCase " status" "status" = false ∧
      Text.sameIgnoringCase "status StateObserver<a_to_b>" "status" = false ∧
      Text.cut Transition.mark "M".toList = none := by
  intro order label c w f
  let t : Transition := ⟨"a", "b> StateObserver<M"⟩
  have hlabel : Transition.cut? label.toList = some t := by decide +kernel
  obtain ⟨-, entity, hrun⟩ := World.accepts_status (w := w) rfl hlabel (by decide +kernel)
  have hblank : Activity.parse (" status" ++ " StateObserver<" ++ label ++ ">") =
      .ok (.state "status" (some t)) :=
    (Activity.parse_observer_iff (ne_bracket_of_all _ (by decide +kernel))).mpr
      ⟨by decide +kernel, by decide +kernel, t, by decide +kernel, rfl⟩
  have hplain : Activity.parse ("status" ++ " StateObserver<" ++ label ++ ">") =
      .ok (.state "status" (some t)) :=
    (Activity.parse_observer_iff (ne_bracket_of_all _ (by decide +kernel))).mpr
      ⟨by decide +kernel, by decide +kernel, t, by decide +kernel, rfl⟩
  have hsame : "status StateObserver<a_to_b>" ++ " StateObserver<" ++ "M" ++ ">" =
      "status" ++ " StateObserver<" ++ label ++ ">" := by decide +kernel
  refine ⟨_, _, t, hrun, rfl, ⟨hblank, ?_, ?_⟩, ?_⟩
  · rw [hsame]
    exact hplain
  · simp [StateObserver.accepts, Text.sameIgnoringCase_refl, t]
  · decide +kernel

end FeatureFlow
