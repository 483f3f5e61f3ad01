import FeatureFlow.Proofs.Cascade
import FeatureFlow.Proofs.Startup

/-! From labels to runs. What an emission starts can be read off the application and the later
subscriptions: the tables that an engine fills on the way neither lose a feature set nor add one. -/
namespace FeatureFlow

/-- A feature set of this activity is to run for the emission. -/
def Activity.wants : Activity → Emission → Bool
  | .event type guards, .event e => type == e.type && guards.all (·.accepts e.payload)
  | .repository name, .change c => name == c.repository
  | .state field none, .state t => Text.sameIgnoringCase field t.field
  | .state field (some wanted), .state t =>
    Text.sameIgnoringCase field t.field &&
      Text.sameIgnoringCase wanted.source t.transition.source &&
      Text.sameIgnoringCase wanted.target t.transition.target
  | _, _ => false

def FeatureSet.awaits (f : FeatureSet) (emission : Emission) : Bool :=
  match Activity.parse f.activity with
  | .ok activity => activity.wants emission
  | .error _ => false

namespace Application

/-- The feature set that a call to subscribe, with a type, a guard and a name, has run for the
emission. -/
def called? (app : Application) (emission : Emission) (call : String × String × String) :
    Option FeatureSet :=
  match Guard.parse call.2.1 with
  | .ok guards =>
    if (Activity.event call.1 guards).wants emission then app.named.find?
      (·.name = call.2.2) else none
  | .error _ => none

/-- The feature sets that an emission is to start: those whose label asks for it, in the order of
the application, and then those subscribed to it, in the order of the calls. -/
def wired (app : Application) (calls : List (String × String × String)) (emission : Emission) :
    List FeatureSet :=
  app.named.filter (·.awaits emission) ++ calls.filterMap (app.called? emission)

theorem name_of_mem_wired {app : Application} {calls : List (String × String × String)}
    {emission : Emission} {f : FeatureSet} (h : f ∈ app.wired calls emission) :
    f.name ≠ Activity.endName := by
  have hnamed : f ∈ app.named := by
    rcases List.mem_append.mp h with h | h
    · exact (List.mem_filter.mp h).1
    · obtain ⟨call, -, hcall⟩ := List.mem_filterMap.mp h
      rw [called?] at hcall
      split at hcall
      · split at hcall
        · exact List.mem_of_find?_eq_some hcall
        · cases hcall
      · cases hcall
  simpa using (List.mem_filter.mp hnamed).2

end Application

namespace Engine

variable {e e' : Engine} {f : FeatureSet} {fs : List FeatureSet} {emission : Emission}

/-- What is tied already finds its feature set as before. -/
theorem Tied.handlers_append (h : e.Tied) :
    ({ e with featureSets := e.featureSets ++ [f] } : Engine).handlers emission =
      e.handlers emission := by
  cases emission with
  | event event =>
    rw [← List.map_inj_right fun _ _ => Option.some.inj, ← handlers_event h,
      ← handlers_event h.append]
    apply List.map_congr_left
    intro s hs
    obtain ⟨g, hg⟩ := Option.isSome_iff_exists.mp (h.subscriptions s (List.mem_filter.mp hs).1)
    rw [hg, featureSet?_of_featureSet? hg]
  | _ => rfl

theorem StateObserver.accepts_eq {field : String} {transition : Option Transition}
    {t : StateChange} :
    (StateObserver.mk field transition f).accepts t =
      (Activity.state field transition).wants (.state t) := by
  cases transition with
  | none => simp [StateObserver.accepts, Activity.wants]
  | some wanted => simp [StateObserver.accepts, Activity.wants, Bool.and_assoc]

/-- A feature set that is tied to its activity runs after those tied before. -/
theorem handlers_tie (hf : e.featureSet? f.name = some f) (activity : Activity) :
    (e.tie f activity).handlers emission =
      e.handlers emission ++ if activity.wants emission then [f] else [] := by
  cases activity with
  | event type guards =>
    cases emission with
    | event event =>
      have htie : (e.tie f (.event type guards)).handlers (.event event) =
          ((e.subscriptions ++ [Subscription.mk type guards f.name]).filter
            (Subscription.accepts · event)).filterMap
            (fun s => e.featureSet? s.featureSet) := rfl
      rw [htie, List.filter_append, List.filterMap_append]
      congr 1
      have haccepts : (Subscription.mk type guards f.name).accepts event =
          (Activity.event type guards).wants (.event event) := rfl
      rw [List.filter_cons, haccepts]
      split
      · simp [hf]
      · rfl
    | _ => exact (List.append_nil _).symm
  | repository name =>
    cases emission with
    | change c =>
      have htie : (e.tie f (.repository name)).handlers (.change c) =
          ((e.repositoryObservers ++ [RepositoryObserver.mk name f]).filter
            (RepositoryObserver.repository · = c.repository)).map
              RepositoryObserver.featureSet := rfl
      rw [htie, List.filter_append, List.map_append]
      congr 1
      by_cases hn : name = c.repository <;> simp [Activity.wants, hn]
    | _ => exact (List.append_nil _).symm
  | state field transition =>
    cases emission with
    | state t =>
      have htie : (e.tie f (.state field transition)).handlers (.state t) =
          ((e.stateObservers ++ [StateObserver.mk field transition f]).filter
            (StateObserver.accepts · t)).map
            StateObserver.featureSet := rfl
      rw [htie, List.filter_append, List.map_append]
      congr 1
      rw [List.filter_cons, StateObserver.accepts_eq]
      split <;> rfl
    | _ => cases transition <;> exact (List.append_nil _).symm
  | other =>
    cases emission <;> exact (List.append_nil _).symm

/-- One step of loading: the feature set is there for what its label asks for, unless it is one for
the end. -/
theorem Added.handlers (h : Added e f [] e') (he : e.Tied) :
    e'.handlers emission =
      e.handlers emission ++ ([f].filter (·.name ≠ Activity.endName)).filter
        (·.awaits emission) := by
  cases h with
  | ended hname =>
    rw [List.filter_cons_of_neg (by simpa using hname)]
    cases emission <;> exact (List.append_nil _).symm
  | tied hne hf ha =>
    rw [handlers_tie (featureSet?_last hf), he.handlers_append,
      List.filter_cons_of_pos (by simpa using hne)]
    congr 1
    rw [List.filter_nil, List.filter_cons, List.filter_nil, FeatureSet.awaits, ha]

/-- All steps of loading, if nothing is wrong. -/
theorem addAll_handlers (he : e.Tied) (h : (e.addAll fs).1 = []) :
    (e.addAll fs).2.handlers emission =
      e.handlers emission ++ (fs.filter (·.name ≠ Activity.endName)).filter
        (·.awaits emission) := by
  induction fs generalizing e with
  | nil => exact (List.append_nil _).symm
  | cons f fs ih =>
    rw [addAll_cons_fst] at h
    obtain ⟨hfirst, hrest⟩ := List.append_eq_nil_iff.mp h
    have hstep := added e f
    rw [hfirst] at hstep
    have hcons : f :: fs = [f] ++ fs := rfl
    rw [addAll_cons_snd, ih (hstep.tied_of_tied he) hrest, hstep.handlers he, hcons,
      List.filter_append,
      List.filter_append, List.append_assoc]

variable {registry : Registry} {limits : Limits} {contract : Option Contract} {app : Application}
    {loaded : Engine}

theorem load_handlers (h : load registry limits contract app = .ok loaded) :
    loaded.handlers emission = app.named.filter (·.awaits emission) := by
  obtain ⟨routes, -, hstartable, rfl⟩ := load_ok_iff.mp h
  have hproblems := (List.append_eq_nil_iff.mp (Application.problems_eq_nil.mpr hstartable)).1
  rw [addAll_handlers ⟨by simp, by simp, by simp⟩ ((addAll_problems_of_empty rfl).trans hproblems)]
  cases emission <;> rfl

/-- The engine after calls to subscribe, if all of them succeed. -/
def subscribeEach (e : Engine) (calls : List (String × String × String)) :
    Except SubscribeError Engine :=
  calls.foldlM (fun e call => e.subscribe call.1 call.2.1 call.2.2) e

theorem subscribe_handlers (he : e.featureSets = app.named) {call : String × String × String}
    (h : e.subscribe call.1 call.2.1 call.2.2 = .ok e') :
    e'.handlers emission = e.handlers emission ++ (app.called? emission call).toList := by
  obtain ⟨type, guard, name⟩ := call
  rw [subscribe] at h
  split at h
  · cases h
  · rename_i hknown
    obtain ⟨f, hf⟩ := Option.ne_none_iff_exists'.mp (by simpa using hknown)
    have hname : f.name = name := by simpa using List.find?_some hf
    subst hname
    rw [Subscription.parse] at h
    cases hguard : Guard.parse guard with
    | error cause => rw [hguard] at h; cases h
    | ok guards =>
      rw [hguard] at h
      cases h
      have htie : (e.tie f (.event type guards)).handlers emission = _ :=
        handlers_tie hf (.event type guards)
      have hfind : app.named.find? (·.name = f.name) = some f := by rwa [featureSet?, he] at hf
      rw [Application.called?, hguard]
      refine htie.trans ?_
      congr 1
      dsimp only
      split
      · rw [hfind]; rfl
      · rfl

theorem subscribeEach_handlers {calls : List (String × String × String)}
    (he : e.Serves contract app) (h : e.subscribeEach calls = .ok e') :
    e'.handlers emission = e.handlers emission ++ calls.filterMap (app.called? emission) := by
  induction calls generalizing e with
  | nil =>
    cases h
    exact (List.append_nil _).symm
  | cons call calls ih =>
    rw [subscribeEach, List.foldlM_cons] at h
    cases hstep : e.subscribe call.1 call.2.1 call.2.2 with
    | error cause => rw [hstep] at h; cases h
    | ok e₁ =>
      rw [hstep] at h
      rw [ih (he.subscribe hstep) h, subscribe_handlers he.featureSets hstep, List.append_assoc]
      congr 1
      rw [List.filterMap_cons]
      cases app.called? emission call <;> rfl

/-- Routing an emission starts the feature sets that are wired to it, each once for each label or
call that asks for it and in their order, and no others; those for the end of the application are
never among them. -/
theorem emission_starts_what_is_wired {calls : List (String × String × String)}
    (hload : load registry limits contract app = .ok loaded)
    (hcalls : loaded.subscribeEach calls = .ok e) (emission : Emission) :
    (∀ f ∈ app.wired calls emission, f.name ≠ Activity.endName) ∧
    e.route emission = (do
      let deadline ← e.deadline
      let runs ← Process.gather ((app.wired calls emission).map fun f =>
        e.runHandler f (.ofEmission emission) deadline)
      return runs.flatMap (·.emissions)) ∧
    e.route emission = List.flatMap Handling.emissions <$> e.handleAll emission ∧
    ∀ others s s' handlings, Task.Ends others (e.handleAll emission s) s' handlings →
      handlings.map (·.featureSet) = app.wired calls emission ∧
        ∀ h ∈ handlings, h.trigger = .ofEmission emission := by
  have hhandlers : e.handlers emission = app.wired calls emission := by
    rw [subscribeEach_handlers (serves_of_load hload) hcalls, load_handlers hload]
    rfl
  refine ⟨fun f => Application.name_of_mem_wired, ?_, e.route_eq emission, ?_⟩
  · rw [← hhandlers]
    rfl
  · intro others s s' handlings h
    have hmade := ends_handleAll h
    exact ⟨hmade.handlers.trans hhandlers, hmade.trigger⟩

/-- A guarded handler runs before a later subscription. Another subscription of the handler has a
guard that fails, and the label of the feature set for the end is not looked at. -/
theorem paid_order_starts_audit_and_mail :
    let app : Application := ⟨"shop", [⟨"audit", "OrderPlaced Handler<status:paid>", []⟩,
      ⟨Activity.endName, "OrderPlaced Handler", []⟩, ⟨"mail", "", []⟩,
      ⟨"stock", "orders Observer", []⟩]⟩
    let calls := [("OrderPlaced", "", "mail"), ("OrderPlaced", "status:open", "audit")]
    let emission : Emission := .event ⟨⟨7⟩, "OrderPlaced", .map [("status", .string "PAID")],
      ⟨0, 0⟩, none⟩
    (app.wired calls emission).map (·.name) = ["audit", "mail"] ∧
    ∃ loaded e, load .builtins {} none app = .ok loaded ∧ loaded.subscribeEach calls = .ok e ∧
      ∃ s' handlings, Task.Ends anything (e.handleAll emission {}) s' handlings ∧
        handlings.map (·.featureSet) = app.wired calls emission := by
  intro app calls emission
  have hstartable : app.Startable [] := Application.problems_eq_nil.mp (by decide +kernel)
  let loaded : Engine := (addAll { name := "shop", registry := .builtins } app.featureSets).2
  have hload : load .builtins {} none app = .ok loaded :=
    load_ok_iff.mpr ⟨none, rfl, hstartable, rfl⟩
  have hok : (loaded.subscribeEach calls).isOk = true := by decide +kernel
  obtain ⟨e, hcalls⟩ : ∃ e, loaded.subscribeEach calls = .ok e := by
    cases h : loaded.subscribeEach calls with
    | ok e => exact ⟨e, rfl⟩
    | error cause => rw [h] at hok; cases hok
  obtain ⟨s', handlings, hend⟩ := Task.exists_ends (e.handleAll emission {})
  obtain ⟨-, -, -, hruns⟩ := emission_starts_what_is_wired hload hcalls emission
  exact ⟨by decide +kernel, loaded, e, hload, hcalls, s', handlings, hend, (hruns _ _ _ _ hend).1⟩

end Engine

end FeatureFlow
