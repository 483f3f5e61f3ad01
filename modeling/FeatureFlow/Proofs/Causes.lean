import FeatureFlow.Proofs.Chronicle

/-! Causes. The built-in actions emit events without a cause, and a run gives all of them the one it
was started by. So an event that is routed below the root names the emission one level above whose
handler gave it out. -/
namespace FeatureFlow

variable {others : Services → Services → Prop}

/-- No event in the outbox names a cause. -/
def Uncaused (outbox : List Emission) : Prop :=
  ∀ event, .event event ∈ outbox → event.causedBy = none

theorem Uncaused.append {outbox emitted : List Emission} (h : Uncaused outbox)
    (he : Uncaused emitted) :
    Uncaused (outbox ++ emitted) := by
  intro event hmem
  rcases List.mem_append.mp hmem with hmem | hmem
  · exact h event hmem
  · exact he event hmem

/-- One action: what a built-in action emits names no cause. -/
theorem Action.Effect.uncaused {a : Action} {target : Target} {object : Object}
    {w w' : World (List Emission)} {o : Except ActionError Outcome}
    (h : a.Effect others target object w o w') (hw : Uncaused w.own) :
    Uncaused w'.own := by
  cases h with
  | emitted =>
    refine hw.append ?_
    intro event hmem
    obtain rfl : event = _ := by simpa using hmem
    rfl
  | accepted | stored => exact hw.append (by simp [Uncaused])
  | _ => exact hw

/-- A whole run. -/
theorem Runs.uncaused {code : Code} {w w' : World Invocation} {steps : List Step}
    {r : Except ExecutionError Flow} (h : Runs others Registry.builtins code w steps r w')
    (hw : Uncaused w.own.outbox) : Uncaused w'.own.outbox := by
  refine h.outside (P := fun _ w w' => Uncaused w.own → Uncaused w'.own) ?_ ?_ ?_ ?_ hw
  · intro w w' haged hw
    exact haged.1 ▸ hw
  · intro steps steps' w w₁ w' hfirst hrest hw
    exact hrest (hfirst hw)
  · intro cause w hw
    exact hw
  · intro c a scope deadline o w w' ha hrun hw
    exact (Action.builtin_effect (Registry.get?_builtins.mp ha).1 hrun).uncaused hw

namespace Engine

variable {e : Engine} {s s' : Services}

/-- What a run gives out names its trigger for a cause, the notice of its failure too. -/
theorem Handled.causedBy (he : e.registry = .builtins) {deadline : Option Nat} {h : Handling}
    (hh : Handled others e deadline s h s') {event : Event} (hevent : .event event ∈ h.emissions) :
    event.causedBy = some h.trigger.id := by
  obtain ⟨w', hyields, hout, -⟩ := hh.ran
  rw [he] at hyields
  obtain ⟨steps, r, hruns, -⟩ := FeatureSet.yields_iff_runs.mp hyields
  have houtbox : Uncaused h.run.outbox := hout ▸ hruns.uncaused (by simp [Uncaused])
  rcases List.mem_append.mp hevent with hmem | hmem
  · obtain ⟨emission, hemission, heq⟩ := List.mem_map.mp hmem
    cases emission with
    | event first =>
      cases heq
      rw [houtbox first hemission]
      rfl
    | _ => cases heq
  · have hnoticed := hh.noticed
    generalize h.run.result = result, h.notice = notice at hnoticed hmem
    cases hnoticed with
    | reported _ hreports =>
      obtain rfl : event = _ := by simpa using hmem
      exact hreports.causedBy
    | _ => simp at hmem

theorem Visit.mem_of_route_mem_deeds {depth d : Nat} {u v : Visit}
    (h : ⟨d, .route v⟩ ∈ u.deeds depth) :
    d = depth ∧ v = u := by
  unfold deeds Recorder.entries at h
  split at h <;> simpa [Recorder.deeds] using h

/-- An emission that is routed is one of the first level, or was given out by a handler of one that
was routed before it, one level up. -/
theorem Unfolds.origin {depth levels : Nat} {level : List Emission} {log : List Deed}
    (h : Unfolds e depth levels level log) {before after : List Deed} {d : Nat} {v : Visit}
    (hlog : log = before ++ ⟨d, .route v⟩ :: after) :
    (d = depth ∧ v.emission ∈ level) ∨
      ∃ d' u, d = d' + 1 ∧ ⟨d', .route u⟩ ∈ before ∧ u.Made e ∧ v.emission ∈ u.children := by
  induction h generalizing before with
  | cut => simp at hlog
  | @level depth levels visits log made below ih =>
    have hmem {deed : Deed} : deed ∈ visits.flatMap (·.deeds depth) ↔ ∃ u ∈ visits,
        deed ∈ u.deeds depth :=
      List.mem_flatMap
    have hsplit : (∃ middle, before = visits.flatMap (·.deeds depth) ++ middle ∧
      log = middle ++ ⟨d, .route v⟩ :: after) ∨
        ⟨d, .route v⟩ ∈ visits.flatMap (·.deeds depth) := by
      rcases List.append_eq_append_iff.mp hlog with h | ⟨middle, hlevel, hrest⟩
      · exact .inl h
      · cases middle with
        | nil => exact .inl ⟨[], by simpa using hlevel.symm, by simpa using hrest.symm⟩
        | cons deed middle =>
          obtain ⟨rfl, -⟩ := List.cons.inj hrest
          exact .inr (hlevel ▸ List.mem_append_right before List.mem_cons_self)
    rcases hsplit with ⟨middle, rfl, hrest⟩ | hdeed
    · rcases ih hrest with ⟨rfl, hv⟩ | ⟨d', u, rfl, hu, hmade, hv⟩
      · obtain ⟨u, hu, hchild⟩ := List.mem_flatMap.mp hv
        have hroute : ⟨depth, .route u⟩ ∈ visits.flatMap (·.deeds depth) :=
          hmem.mpr ⟨u, hu, u.route_mem_deeds depth⟩
        exact .inr ⟨depth, u, rfl, List.mem_append_left _ hroute, made u hu, hchild⟩
      · exact .inr ⟨d', u, rfl, List.mem_append_right _ hu, hmade, hv⟩
    · obtain ⟨u, hu, hdeed⟩ := hmem.mp hdeed
      obtain ⟨rfl, rfl⟩ := Visit.mem_of_route_mem_deeds hdeed
      exact .inl ⟨rfl, List.mem_map_of_mem hu⟩

/-- The chronicle of a dispatch in which each event names its cause. -/
structure Linked (root : Emission) (log : List Deed) : Prop where
  /-- The root goes first, as it was given, and all else is deeper. -/
  root : ∃ (v : Visit) (rest : List Deed),
    log = v.deeds 0 ++ rest ∧ v.emission = root ∧ ∀ deed ∈ rest, 0 < deed.depth
  /-- An event below the root was given out by a run, and names the emission that started the run.
  That one was routed before, one level up. -/
  derived : ∀ before depth v event after, log = before ++ ⟨depth + 1, .route v⟩ :: after →
    v.emission = .event event → ∃ (u : Visit) (h : Handling),
      ⟨depth, .route u⟩ ∈ before ∧ h ∈ u.handlings ∧
      h.trigger = .ofEmission u.emission ∧ .event event ∈ h.emissions ∧
        event.causedBy = some u.emission.id

theorem Unfolds.linked (he : e.registry = .builtins) {levels : Nat} {root : Emission}
    {log : List Deed} (h : Unfolds e 0 (levels + 1) [root] log) : Linked root log := by
  constructor
  · generalize hlevel : [root] = level at h
    cases h with
    | level made below =>
      obtain ⟨v, rfl, hv⟩ := List.map_eq_singleton_iff.mp hlevel.symm
      refine ⟨v, _, by rw [List.flatMap_singleton], hv, ?_⟩
      intro deed hdeed
      have hdepth := below.depth_le deed hdeed
      omega
  · intro before depth v event after hlog hevent
    rcases h.origin hlog with ⟨hdepth, -⟩ | ⟨d, u, hdepth, hu, hmade, hv⟩
    · omega
    · obtain rfl : depth = d := by omega
      rw [hevent] at hv
      obtain ⟨g, hg, hgiven⟩ := List.mem_flatMap.mp hv
      obtain ⟨_, _, _, hhandled⟩ := hmade.handled g hg
      have hcause := hhandled.causedBy he hgiven
      rw [hmade.trigger g hg, Trigger.id_ofEmission] at hcause
      exact ⟨u, g, hu, hg, hmade.trigger g hg, hgiven, hcause⟩

/-- With the built-in actions, each event that is routed below the root of a dispatch names the
emission that started the run it comes from, and the root is left as it was given. The events of a
run that a call started name the trigger of that run. -/
theorem events_name_their_cause {e : Engine} (he : e.registry = .builtins) :
    Chronicled e ∧
    (∀ others root s s' report log, Task.Ends others (e.chronicle root s) s' (report, log) →
      Linked root log) ∧
    ∀ others call s s' told, Task.Ends others (e.stories call s) s' told →
      told.map (·.handling.featureSet) = (e.launches call).map (·.1) ∧
      ∀ story ∈ told, (∃ launch ∈ e.launches call, ∃ id, story.handling.trigger = launch.2 id) ∧
        (∀ event, .event event ∈ story.handling.emissions →
          event.causedBy = some story.handling.trigger.id) ∧
        story.cascades.map (·.1) = story.handling.emissions ∧ ∀ c ∈ story.cascades,
          Linked c.1 c.2 := by
  refine ⟨e.chronicled, ?_, ?_⟩
  · intro others root s s' report log h
    exact (ends_chronicle h).linked he
  · intro others call s s' told h
    obtain ⟨hlaunched, htold⟩ := ends_stories h
    refine ⟨hlaunched, ?_⟩
    intro story hstory
    obtain ⟨⟨⟨_, _, _, hhandled⟩, hemissions, hunfolds⟩, htrigger⟩ := htold story hstory
    refine ⟨htrigger, fun event => hhandled.causedBy he, hemissions, ?_⟩
    intro c hc
    exact (hunfolds c hc).linked he

/-- The handler of an event that has a cause emits another event and then fails. -/
theorem emitted_event_and_report_name_root :
    let emit : Statement := .act ⟨"Emit", ⟨"C", none, .whole⟩,
      ⟨.with_, .literal (.map []), none⟩, none⟩
    let fail : Statement := .act ⟨"Throw", ⟨"Failed", none, .whole⟩,
      ⟨.for_, .literal .null, none⟩, none⟩
    let e : Engine := { name := "App", featureSets := [⟨"onA", "", [emit, fail]⟩],
                        subscriptions := [⟨"A", [], "onA"⟩], limits := ⟨none, 1⟩ }
    let root : Emission := .event ⟨⟨7⟩, "A", .null, ⟨0, 0⟩, some ⟨6⟩⟩
    e.registry = .builtins ∧ ∃ s' report log,
      Task.Ends anything (e.chronicle root {}) s' (report, log) ∧
      log.map (·.depth) = [0, 0, 1, 1, 1, 1] ∧ Linked root log := by
  intro emit fail e root
  have he : e.registry = .builtins := by simp only [e]
  let look (_ : Services) (told : Report × List Deed) : List Nat := told.2.map (·.depth)
  have hrun : ((e.chronicle root {}).settle 0).2.map (look ((e.chronicle root {}).settle 0).1) =
      some [0, 0, 1, 1, 1, 1] := by
    simp only [e, Registry.builtins_eq]
    decide +kernel
  obtain ⟨s', ⟨report, log⟩, hends, hdepths⟩ := Task.exists_of_settle hrun
  obtain ⟨-, hlinked, -⟩ := events_name_their_cause he
  exact ⟨he, s', report, log, hends, hdepths, hlinked anything root {} s' report log hends⟩

end Engine

end FeatureFlow
