import FeatureFlow.Proofs.Chronicle

/-! The order in which emissions are dispatched. What comes out of one emission goes level by level.
What comes out of a run that a call started does not: its emissions are dispatched one after the
other, so what is derived from the first of them goes before the second. -/
namespace FeatureFlow.Engine

/-- What was given out at first comes before what is derived from it: after an act for a derived
emission there is none for one of the first. -/
def OwnFirst (log : List Deed) : Prop := log.Pairwise fun a b => b.depth = 0 → a.depth = 0

variable {e : Engine}

/-- A dispatch begins with its root. -/
theorem Unfolds.exists_own {depth levels : Nat} {root : Emission} {log : List Deed}
    (h : Unfolds e depth (levels + 1) [root] log) : ∃ deed ∈ log, deed.depth = depth := by
  generalize hlevel : [root] = level at h
  cases h with
  | @level _ _ visits log made below =>
    obtain ⟨v, rfl, -⟩ := List.map_eq_singleton_iff.mp hlevel.symm
    exact ⟨_, List.mem_append_left _ (by simpa using v.route_mem_deeds depth), rfl⟩

theorem ownFirst_of_sorted {log : List Deed} (h : log.Pairwise (·.depth ≤ ·.depth)) :
    OwnFirst log := by
  apply h.imp
  intro a b hle hb
  omega

theorem pairwise_left_iff {α : Type} {P : α → Prop} {l : List α} :
    (l.Pairwise fun a _ => P a) ↔ ∀ a ∈ l.dropLast, P a := by
  induction l with
  | nil => simp
  | cons a l ih =>
    cases l with
    | nil => simp
    | cons b l =>
      rw [List.pairwise_cons, ih, List.dropLast_cons_cons]
      constructor
      · rintro ⟨ha, hl⟩
        exact List.forall_mem_cons.mpr ⟨ha b List.mem_cons_self, hl⟩
      · intro h
        obtain ⟨ha, hl⟩ := List.forall_mem_cons.mp h
        exact ⟨fun _ _ => ha, hl⟩

/-- The emissions of a run come first only if all of them but the last give nothing that is routed.
-/
theorem Story.Told.ownFirst_iff {story : Story} (h : story.Told e) :
    OwnFirst story.log ↔ ∀ c ∈ story.cascades.dropLast, ∀ deed ∈ c.2, deed.depth = 0 := by
  rw [OwnFirst, log, List.pairwise_flatMap, ← pairwise_left_iff]
  constructor
  · rintro ⟨-, hapart⟩
    refine hapart.imp_of_mem ?_
    intro c₁ c₂ _ hc₂ hbefore deed hdeed
    obtain ⟨own, hown, hdepth⟩ := (h.unfolds c₂ hc₂).exists_own
    exact hbefore deed hdeed own hown hdepth
  · intro hleft
    refine ⟨fun c hc => ownFirst_of_sorted (h.unfolds c hc).sorted, ?_⟩
    apply hleft.imp
    intro c₁ c₂ hown deed hdeed _ _ _
    exact hown deed hdeed

/-- Dispatch of one emission goes level by level. A run that a call started has its emissions
dispatched in turn, each level by level; so they come before all that is derived from them exactly
if of none but the last anything derived is routed. -/
theorem own_emissions_first_iff (e : Engine) :
    Chronicled e ∧
    (∀ others root s s' report log, Task.Ends others (e.chronicle root s) s' (report, log) →
      Unfolds e 0 (e.limits.cascade + 1) [root] log ∧ log.Pairwise (·.depth ≤ ·.depth)) ∧
    ∀ others call s s' told, Task.Ends others (e.stories call s) s' told →
      told.map (·.handling.featureSet) = (e.launches call).map (·.1) ∧
      ∀ story ∈ told, story.cascades.map (·.1) = story.handling.emissions ∧
        (∀ c ∈ story.cascades, Unfolds e 0 (e.limits.cascade + 1) [c.1] c.2) ∧
        (OwnFirst story.log ↔ ∀ c ∈ story.cascades.dropLast, ∀ deed ∈ c.2, deed.depth = 0) := by
  refine ⟨e.chronicled, ?_, ?_⟩
  · intro others root s s' report log h
    have hunfolds := ends_chronicle h
    exact ⟨hunfolds, hunfolds.sorted⟩
  · intro others call s s' told h
    obtain ⟨hlaunched, htold⟩ := ends_stories h
    refine ⟨hlaunched, ?_⟩
    intro story hstory
    have hs := (htold story hstory).1
    exact ⟨hs.emissions, hs.unfolds, hs.ownFirst_iff⟩

/-- The feature set that is invoked emits two events, and the handler of the first emits a third.
The third is recorded and routed before the second. -/
theorem derived_event_precedes_second_of_run :
    let emit (type : String) : Statement :=
      .act ⟨"Emit", ⟨type, none, .whole⟩, ⟨.with_, .literal (.map []), none⟩, none⟩
    let app : Application :=
      ⟨"App", [⟨"job", "", [emit "A", emit "B"]⟩, ⟨"onA", "A Handler", [emit "C"]⟩]⟩
    ∃ e s' story, load .builtins {} none app = .ok e ∧
      Task.Ends anything (e.stories (.invoke "job" .null) { journal := some {} }) s' [story] ∧
      s'.journal.map (·.types) = some ["A", "C", "B"] ∧ ¬ OwnFirst story.log := by
  intro emit app
  have hstartable : app.Startable [] := Application.problems_eq_nil.mp (by decide +kernel)
  let e : Engine := (addAll { name := "App", registry := .builtins } app.featureSets).2
  have hload : load .builtins {} none app = .ok e := load_ok_iff.mpr ⟨none, rfl, hstartable, rfl⟩
  let look (s : Services) (told : List Story) : Option (List String) × List (List Nat) :=
    (s.journal.map (·.types), told.map fun story => story.log.map (·.depth))
  have hrun : (((e.stories (.invoke "job" .null) { journal := some {} }).settle 0).2.map
      (look ((e.stories (.invoke "job" .null) { journal := some {} }).settle 0).1)) =
        some (some ["A", "C", "B"], [[0, 0, 1, 1, 0, 0]]) := by
    simp only [e, Registry.builtins_eq]
    decide +kernel
  obtain ⟨s', told, hends, hlook⟩ := Task.exists_of_settle hrun
  obtain ⟨hjournal, hdepths⟩ := Prod.mk.inj hlook
  obtain ⟨story, rfl, hlog⟩ := List.map_eq_singleton_iff.mp hdepths
  refine ⟨e, s', story, hload, hends, hjournal, ?_⟩
  intro hown
  have hdepth : (story.log.map (·.depth)).Pairwise fun a b => b = 0 → a = 0 :=
    List.pairwise_map.mpr hown
  rw [hlog] at hdepth
  revert hdepth
  decide

end FeatureFlow.Engine
