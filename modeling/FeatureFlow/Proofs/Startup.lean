import FeatureFlow.Engine.Run

/-! Startup. An application is refused with a list of all that is wrong with it, and in an engine
that was loaded everything that starts a feature set finds it, whatever is subscribed later. -/
namespace FeatureFlow

/-- The feature sets that are found by their name: all but those for the end of the application. -/
def Application.named (app : Application) : List FeatureSet :=
  app.featureSets.filter (·.name ≠ Activity.endName)

/-- What is wrong with a feature set that stands after others. -/
def FeatureSet.problemsAfter (before : List FeatureSet) (f : FeatureSet) : List StartupProblem :=
  if f.name ∈ before.map (·.name) then [.duplicateFeatureSet f.name]
  else match Activity.parse f.activity with
    | .ok _ => []
    | .error cause => [.activity f.name cause]

/-- All that is wrong with an application whose contract has these routes: first with its feature
sets, each after those before it, then with the routes. -/
def Application.problems (app : Application) (routes : List Route) : List StartupProblem :=
  (app.named.zipIdx.flatMap fun (f, i) => f.problemsAfter (app.named.take i)) ++
    (routes.filter (·.operation ∉ app.named.map (·.name))).map (.missingHandler ·.operation)

/-- Nothing is wrong with the application. -/
structure Application.Startable (app : Application) (routes : List Route) : Prop where
  names : (app.named.map (·.name)).Nodup
  labels : ∀ f ∈ app.named, ∃ activity, Activity.parse f.activity = .ok activity
  operations : ∀ r ∈ routes, r.operation ∈ app.named.map (·.name)

/-- The routes of a contract, if there is one. -/
def Contract.routesOf : Option Contract → Except (List ContractProblem) (Option (List Route))
  | none => .ok none
  | some c => c.routes.map some

section Problems

variable {f : FeatureSet} {before fs : List FeatureSet}

theorem FeatureSet.problemsAfter_eq_nil :
    f.problemsAfter before = [] ↔
      f.name ∉ before.map (·.name) ∧ ∃ activity, Activity.parse f.activity = .ok activity := by
  rw [problemsAfter]
  split
  · rename_i h
    simp [h]
  · rename_i h
    cases Activity.parse f.activity <;> simp [h]

/-- The problems of feature sets that stand after others. -/
def problemsFrom (before fs : List FeatureSet) : List StartupProblem :=
  (fs.zipIdx before.length).flatMap fun (f, i) => f.problemsAfter ((before ++ fs).take i)

theorem problemsFrom_cons :
    problemsFrom before (f :: fs) = f.problemsAfter before ++ problemsFrom (before ++ [f]) fs := by
  simp [problemsFrom]

theorem problemsFrom_eq_nil :
    problemsFrom before fs = [] ↔ (fs.map (·.name)).Nodup ∧
      (∀ f ∈ fs, f.name ∉ before.map (·.name)) ∧
      ∀ f ∈ fs, ∃ activity, Activity.parse f.activity = .ok activity := by
  induction fs generalizing before with
  | nil => simp [problemsFrom]
  | cons f fs ih =>
    rw [problemsFrom_cons, List.append_eq_nil_iff, FeatureSet.problemsAfter_eq_nil, ih]
    constructor
    · rintro ⟨⟨hf, hparse⟩, hnodup, hnew, hlabels⟩
      have hfirst : f.name ∉ fs.map (·.name) := by
        intro hmem
        obtain ⟨g, hg, hname⟩ := List.mem_map.mp hmem
        exact hnew g hg (by simp [hname])
      refine ⟨List.nodup_cons.mpr ⟨hfirst, hnodup⟩, List.forall_mem_cons.mpr ⟨hf, ?_⟩,
        List.forall_mem_cons.mpr ⟨hparse, hlabels⟩⟩
      intro g hg hmem
      exact hnew g hg (by simp only [List.map_append, List.mem_append]; exact .inl hmem)
    · rintro ⟨hnodup, hnew, hlabels⟩
      obtain ⟨hfirst, hrest⟩ := List.nodup_cons.mp hnodup
      obtain ⟨hf, hfs⟩ := List.forall_mem_cons.mp hnew
      obtain ⟨hparse, hparses⟩ := List.forall_mem_cons.mp hlabels
      refine ⟨⟨hf, hparse⟩, hrest, ?_, hparses⟩
      intro g hg hmem
      rw [List.map_append, List.mem_append] at hmem
      rcases hmem with hmem | hmem
      · exact hfs g hg hmem
      · have hname : g.name = f.name := by simpa using hmem
        exact hfirst (List.mem_map.mpr ⟨g, hg, hname⟩)

theorem Application.problems_eq {app : Application} {routes : List Route} :
    app.problems routes = problemsFrom [] app.named ++
      (routes.filter (·.operation ∉ app.named.map (·.name))).map
        (.missingHandler ·.operation) := rfl

/-- The list says all that there is to say. -/
theorem Application.problems_eq_nil {app : Application} {routes : List Route} :
    app.problems routes = [] ↔ app.Startable routes := by
  have hroutes : (routes.filter (·.operation ∉ app.named.map (·.name))).map
      (StartupProblem.missingHandler ·.operation) = [] ↔ ∀ r ∈ routes,
        r.operation ∈ app.named.map (·.name) := by
    rw [List.map_eq_nil_iff, List.filter_eq_nil_iff]
    simp
  rw [problems_eq, List.append_eq_nil_iff, problemsFrom_eq_nil, hroutes]
  constructor
  · rintro ⟨⟨hnames, -, hlabels⟩, hoperations⟩
    exact ⟨hnames, hlabels, hoperations⟩
  · rintro ⟨hnames, hlabels, hoperations⟩
    exact ⟨⟨hnames, by simp, hlabels⟩, hoperations⟩

end Problems

namespace Engine

variable {e e' : Engine} {f : FeatureSet} {fs : List FeatureSet}

/-- What becomes of an engine when a feature set is added. -/
inductive Added (e : Engine) (f : FeatureSet) : List StartupProblem → Engine → Prop where
  | ended (h : f.name = Activity.endName) :
      Added e f [] { e with endHandlers := e.endHandlers ++ [f] }
  | repeated (h : f.name ≠ Activity.endName) (hf : (e.featureSet? f.name).isSome = true) :
      Added e f [.duplicateFeatureSet f.name] e
  | tied {activity : Activity} (h : f.name ≠ Activity.endName) (hf : e.featureSet? f.name = none)
      (ha : Activity.parse f.activity = .ok activity) :
      Added e f [] (tie { e with featureSets := e.featureSets ++ [f] } f activity)
  | untied {cause : ActivityError} (h : f.name ≠ Activity.endName)
      (hf : e.featureSet? f.name = none) (ha : Activity.parse f.activity = .error cause) :
      Added e f [.activity f.name cause] { e with featureSets := e.featureSets ++ [f] }

theorem added (e : Engine) (f : FeatureSet) : Added e f (e.add f).1 (e.add f).2 := by
  rw [add]
  split
  · rename_i h
    exact .ended h
  · rename_i h
    split
    · rename_i hf
      exact .repeated h hf
    · rename_i hf
      have hnone : e.featureSet? f.name = none := by simpa using hf
      cases ha : Activity.parse f.activity with
      | ok activity => exact .tied h hnone ha
      | error cause => exact .untied h hnone ha

theorem addAll_cons_fst : (e.addAll (f :: fs)).1 = (e.add f).1 ++ ((e.add f).2.addAll fs).1 := rfl

theorem addAll_cons_snd : (e.addAll (f :: fs)).2 = ((e.add f).2.addAll fs).2 := rfl

theorem tie_featureSets (activity : Activity) : (e.tie f activity).featureSets = e.featureSets := by
  cases activity <;> rfl

theorem tie_routes (activity : Activity) : (e.tie f activity).routes = e.routes := by
  cases activity <;> rfl

theorem isSome_featureSet? {name : String} :
    (e.featureSet? name).isSome = true ↔ name ∈ e.featureSets.map (·.name) := by
  simp [featureSet?]

theorem Added.routes {problems : List StartupProblem} (h : Added e f problems e') :
    e'.routes = e.routes := by
  cases h with
  | tied => exact tie_routes _
  | _ => rfl

/-- The names that are known once a feature set is added. -/
theorem Added.known {problems : List StartupProblem} (h : Added e f problems e') (name : String) :
    name ∈ e'.featureSets.map (·.name) ↔
      name ∈ e.featureSets.map (·.name) ∨ f.name ≠ Activity.endName ∧ name = f.name := by
  have hnew (hne : f.name ≠ Activity.endName) : name ∈ (e.featureSets ++ [f]).map (·.name) ↔
      name ∈ e.featureSets.map (·.name) ∨ f.name ≠ Activity.endName ∧ name = f.name := by
    rw [List.map_append, List.mem_append]
    simp [hne]
  cases h with
  | ended hname => simp [hname]
  | repeated hne hf =>
    constructor
    · exact .inl
    · rintro (hmem | ⟨-, rfl⟩)
      · exact hmem
      · exact isSome_featureSet?.mp hf
  | tied hne hf ha =>
    rw [tie_featureSets]
    exact hnew hne
  | untied hne hf ha => exact hnew hne

/-- What is reported about a feature set hangs on the names before it only. -/
theorem Added.problems {problems : List StartupProblem} {before : List FeatureSet}
    (h : Added e f problems e')
    (hbefore : ∀ name, name ∈ e.featureSets.map (·.name) ↔ name ∈ before.map (·.name)) :
    problems = if f.name = Activity.endName then [] else f.problemsAfter before := by
  have hnew (hf : e.featureSet? f.name = none) : f.name ∉ before.map (·.name) := by
    intro hmem
    have hsome := isSome_featureSet?.mpr ((hbefore f.name).mpr hmem)
    simp [hf] at hsome
  cases h with
  | ended hname => rw [if_pos hname]
  | repeated hne hf =>
    have hmem : f.name ∈ before.map (·.name) := (hbefore f.name).mp (isSome_featureSet?.mp hf)
    rw [if_neg hne, FeatureSet.problemsAfter, if_pos hmem]
  | tied hne hf ha => rw [if_neg hne, FeatureSet.problemsAfter, if_neg (hnew hf), ha]
  | untied hne hf ha => rw [if_neg hne, FeatureSet.problemsAfter, if_neg (hnew hf), ha]

/-- What adding one feature set keeps, adding many keeps. -/
theorem addAll_invariant {P : Engine → Prop}
    (hstep : ∀ {e e' f problems}, P e → Added e f problems e' → P e') (h : P e) :
    P (e.addAll fs).2 := by
  induction fs generalizing e with
  | nil => exact h
  | cons f fs ih => exact ih (hstep h (added e f))

theorem addAll_routes : (e.addAll fs).2.routes = e.routes :=
  addAll_invariant (P := fun e' => e'.routes = e.routes) (fun he h => h.routes.trans he) rfl

theorem addAll_known (name : String) :
    name ∈ (e.addAll fs).2.featureSets.map (·.name) ↔ name ∈ e.featureSets.map (·.name) ∨
      name ∈ (fs.filter (·.name ≠ Activity.endName)).map (·.name) := by
  induction fs generalizing e with
  | nil => simp [addAll]
  | cons f fs ih =>
    rw [addAll_cons_snd, ih, (added e f).known]
    by_cases hne : f.name = Activity.endName
    · simp [hne]
    · simp [hne, or_assoc]

/-- The problems are those of the feature sets, in their order. -/
theorem addAll_problems {before : List FeatureSet}
    (hbefore : ∀ name, name ∈ e.featureSets.map (·.name) ↔ name ∈ before.map (·.name)) :
    (e.addAll fs).1 = problemsFrom before (fs.filter (·.name ≠ Activity.endName)) := by
  induction fs generalizing e before with
  | nil => rfl
  | cons f fs ih =>
    have hknown := (added e f).known
    rw [addAll_cons_fst, (added e f).problems hbefore]
    by_cases hname : f.name = Activity.endName
    · rw [if_pos hname, List.nil_append, List.filter_cons_of_neg (by simpa using hname)]
      apply ih
      intro name
      rw [hknown, hbefore]
      simp [hname]
    · rw [if_neg hname, List.filter_cons_of_pos (by simpa using hname), problemsFrom_cons]
      congr 1
      apply ih
      intro name
      rw [hknown, hbefore, List.map_append, List.mem_append]
      simp [hname]

/-- If nothing is wrong, all feature sets are there in their order. -/
theorem addAll_featureSets (h : (e.addAll fs).1 = []) :
    (e.addAll fs).2.featureSets = e.featureSets ++ fs.filter (·.name ≠ Activity.endName) := by
  induction fs generalizing e with
  | nil => exact (List.append_nil _).symm
  | cons f fs ih =>
    rw [addAll_cons_fst] at h
    obtain ⟨hfirst, hrest⟩ := List.append_eq_nil_iff.mp h
    rw [addAll_cons_snd, ih hrest]
    have hstep := added e f
    rw [hfirst] at hstep
    generalize (e.add f).2 = e' at hstep
    cases hstep with
    | ended hname => rw [List.filter_cons_of_neg (by simpa using hname)]
    | tied hne =>
      rw [tie_featureSets, List.filter_cons_of_pos (by simpa using hne), List.append_assoc,
        List.singleton_append]

/-- What starts a feature set finds it. -/
structure Tied (e : Engine) : Prop where
  subscriptions : ∀ s ∈ e.subscriptions, (e.featureSet? s.featureSet).isSome = true
  repositoryObservers : ∀ o ∈ e.repositoryObservers,
    e.featureSet? o.featureSet.name = some o.featureSet
  stateObservers : ∀ o ∈ e.stateObservers, e.featureSet? o.featureSet.name = some o.featureSet

theorem featureSet?_of_featureSet? {name : String} {g : FeatureSet}
    (h : e.featureSet? name = some g) :
    ({ e with featureSets := e.featureSets ++ [f] } : Engine).featureSet? name = some g := by
  rw [featureSet?] at h
  rw [featureSet?, List.find?_append, h, Option.some_or]

theorem featureSet?_last (h : e.featureSet? f.name = none) :
    ({ e with featureSets := e.featureSets ++ [f] } : Engine).featureSet? f.name = some f := by
  rw [featureSet?] at h
  rw [featureSet?, List.find?_append, h, Option.none_or]
  simp

theorem Tied.append (h : e.Tied) : Tied { e with featureSets := e.featureSets ++ [f] } where
  subscriptions s hs := by
    obtain ⟨g, hg⟩ := Option.isSome_iff_exists.mp (h.subscriptions s hs)
    rw [featureSet?_of_featureSet? hg]
    rfl
  repositoryObservers o ho := featureSet?_of_featureSet? (h.repositoryObservers o ho)
  stateObservers o ho := featureSet?_of_featureSet? (h.stateObservers o ho)

theorem Tied.subscribe {s : Subscription} (h : e.Tied)
    (hs : (e.featureSet? s.featureSet).isSome = true) :
    Tied { e with subscriptions := e.subscriptions ++ [s] } where
  subscriptions := List.forall_mem_append.mpr ⟨h.subscriptions, List.forall_mem_singleton.mpr hs⟩
  repositoryObservers := h.repositoryObservers
  stateObservers := h.stateObservers

theorem Tied.tie (h : e.Tied) (hf : e.featureSet? f.name = some f) (activity : Activity) :
    (e.tie f activity).Tied := by
  cases activity with
  | event type guards => exact h.subscribe (by rw [hf]; rfl)
  | repository name =>
    refine ⟨h.subscriptions, ?_, h.stateObservers⟩
    exact List.forall_mem_append.mpr ⟨h.repositoryObservers, List.forall_mem_singleton.mpr hf⟩
  | state field transition =>
    refine ⟨h.subscriptions, h.repositoryObservers, ?_⟩
    exact List.forall_mem_append.mpr ⟨h.stateObservers, List.forall_mem_singleton.mpr hf⟩
  | other => exact h

theorem Added.tied_of_tied {problems : List StartupProblem} (he : e.Tied)
    (h : Added e f problems e') : e'.Tied := by
  cases h with
  | ended => exact ⟨he.subscriptions, he.repositoryObservers, he.stateObservers⟩
  | repeated => exact he
  | tied _ hf _ => exact he.append.tie (featureSet?_last hf) _
  | untied => exact he.append

variable {registry : Registry} {limits : Limits} {contract : Option Contract} {app : Application}
  {routes : Option (List Route)}

theorem addAll_problems_of_empty (he : e.featureSets = []) :
    (e.addAll fs).1 = problemsFrom [] (fs.filter (·.name ≠ Activity.endName)) := by
  apply addAll_problems
  intro name
  rw [he]

theorem addAll_unhandled (he : e.featureSets = []) :
    (e.addAll fs).2.unhandled = ((e.routes.getD []).filter
      (·.operation ∉ (fs.filter (·.name ≠ Activity.endName)).map (·.name))).map
        (.missingHandler ·.operation) := by
  rw [unhandled, addAll_routes]
  congr 1
  apply List.filter_congr
  intro r _
  have hknown : ((e.addAll fs).2.featureSet? r.operation).isSome = true ↔ _ :=
    isSome_featureSet?.trans (addAll_known r.operation)
  rw [he, List.map_nil] at hknown
  simp only [List.not_mem_nil, false_or] at hknown
  rw [Bool.eq_iff_iff, decide_eq_true_iff, ← hknown]
  simp

theorem load_of_error {problems : List ContractProblem}
    (h : Contract.routesOf contract = .error problems) :
    load registry limits contract app = .error (.contract problems) := by
  cases contract with
  | none => cases h
  | some c =>
    rw [Contract.routesOf] at h
    cases hc : c.routes with
    | ok routes => rw [hc] at h; cases h
    | error problems' =>
      rw [hc] at h
      cases h
      simp only [load, hc]
      rfl

theorem load_of_routes (h : Contract.routesOf contract = .ok routes) {e : Engine}
    {problems : List StartupProblem}
    (he : (addAll { name := app.name, routes, registry, limits } app.featureSets).2 = e)
    (hp : (addAll { name := app.name, routes, registry, limits } app.featureSets).1 ++ e.unhandled =
      problems) :
    load registry limits contract app =
      if problems = [] then .ok e else .error (.invalid problems) := by
  cases contract with
  | none =>
    cases h
    simp only [load, pure_bind, he, hp]
    cases problems <;> rfl
  | some c =>
    rw [Contract.routesOf] at h
    cases hc : c.routes with
    | ok found =>
      rw [hc] at h
      cases h
      simp only [load, hc, pure_bind, he, hp]
      cases problems <;> rfl
    | error problems => rw [hc] at h; cases h

/-- What is reported is what is wrong. -/
theorem load_of_ok (h : Contract.routesOf contract = .ok routes) :
    load registry limits contract app =
      if app.problems (routes.getD []) = [] then
        .ok (addAll { name := app.name, routes, registry, limits } app.featureSets).2
      else .error (.invalid (app.problems (routes.getD []))) := by
  refine load_of_routes h rfl ?_
  rw [addAll_problems_of_empty rfl, addAll_unhandled rfl]
  rfl

theorem load_ok_iff :
    load registry limits contract app = .ok e ↔ ∃ routes, Contract.routesOf contract = .ok routes ∧
      app.Startable (routes.getD []) ∧
      (addAll { name := app.name, routes, registry, limits } app.featureSets).2 = e := by
  cases h : Contract.routesOf contract with
  | error problems => simp [load_of_error h]
  | ok routes =>
    rw [load_of_ok h]
    by_cases hs : app.Startable (routes.getD [])
    · rw [if_pos (Application.problems_eq_nil.mpr hs)]
      constructor
      · intro heq
        cases heq
        exact ⟨routes, rfl, hs, rfl⟩
      · rintro ⟨_, heq, -, rfl⟩
        cases heq
        rfl
    · rw [if_neg (mt Application.problems_eq_nil.mp hs)]
      constructor
      · intro heq
        cases heq
      · rintro ⟨_, heq, hs', -⟩
        cases heq
        exact absurd hs' hs

/-- The engine runs this application under this contract, and all that it is tied to is there. -/
structure Serves (contract : Option Contract) (app : Application) (e : Engine) :
    Prop extends e.Tied where
  routes : Contract.routesOf contract = .ok e.routes
  featureSets : e.featureSets = app.named
  operations : ∀ r ∈ e.routes.getD [], (e.featureSet? r.operation).isSome = true

theorem serves_of_load (h : load registry limits contract app = .ok e) : e.Serves contract app := by
  obtain ⟨routes, hroutes, hstartable, rfl⟩ := load_ok_iff.mp h
  let start : Engine := { name := app.name, routes, registry, limits }
  have htied : start.Tied := ⟨by simp [start], by simp [start], by simp [start]⟩
  have hproblems : (start.addAll app.featureSets).1 = [] := by
    rw [addAll_problems_of_empty rfl]
    exact (List.append_eq_nil_iff.mp (Application.problems_eq_nil.mpr hstartable)).1
  have hfeatureSets : (start.addAll app.featureSets).2.featureSets = app.named :=
    addAll_featureSets hproblems
  refine ⟨addAll_invariant Added.tied_of_tied htied, ?_, hfeatureSets, ?_⟩
  · rw [addAll_routes]
    exact hroutes
  · intro r hr
    rw [addAll_routes] at hr
    rw [isSome_featureSet?, hfeatureSets]
    exact hstartable.operations r hr

/-- The engine after calls to subscribe, each with a type, a guard and the name of a feature set.
One that is refused changes nothing. -/
def subscribeAll (e : Engine) : List (String × String × String) → Engine
  | [] => e
  | (type, guard, featureSet) :: calls =>
    match e.subscribe type guard featureSet with
    | .ok e => e.subscribeAll calls
    | .error _ => e.subscribeAll calls

theorem subscribe_ok {type guard featureSet : String}
    (h : e.subscribe type guard featureSet = .ok e') :
    ∃ s : Subscription, (e.featureSet? s.featureSet).isSome = true ∧
      e' = { e with subscriptions := e.subscriptions ++ [s] } := by
  rw [subscribe] at h
  split at h
  · cases h
  · rename_i hknown
    rw [Subscription.parse] at h
    cases hguard : Guard.parse guard with
    | error cause => rw [hguard] at h; cases h
    | ok guards =>
      rw [hguard] at h
      cases h
      exact ⟨⟨type, guards, featureSet⟩, by simpa [Option.isSome_iff_ne_none] using hknown, rfl⟩

theorem Serves.subscribe (h : e.Serves contract app) {type guard featureSet : String}
    (hs : e.subscribe type guard featureSet = .ok e') : e'.Serves contract app := by
  obtain ⟨s, hknown, rfl⟩ := subscribe_ok hs
  exact ⟨h.toTied.subscribe hknown, h.routes, h.featureSets, h.operations⟩

/-- What one subscription keeps, any number of calls keeps. -/
theorem subscribeAll_invariant {P : Engine → Prop} (calls : List (String × String × String))
    (hstep : ∀ {e e' type guard featureSet},
      P e → e.subscribe type guard featureSet = .ok e' → P e')
    (h : P e) :
    P (e.subscribeAll calls) := by
  induction calls generalizing e with
  | nil => exact h
  | cons call calls ih =>
    obtain ⟨type, guard, featureSet⟩ := call
    rw [Engine.subscribeAll]
    split
    · rename_i hs
      exact ih (hstep h hs)
    · exact ih h

theorem Serves.subscribeAll (h : e.Serves contract app) (calls : List (String × String × String)) :
    (e.subscribeAll calls).Serves contract app :=
  subscribeAll_invariant calls (fun h hs => h.subscribe hs) h

theorem mem_of_find? {routes : List Route} {method path : String} {r : Route}
    {captures : KeyMap String} (h : Route.find? routes method path = some (r, captures)) :
    r ∈ routes := by
  obtain ⟨r', hr', hmatch⟩ := List.exists_of_findSome?_eq_some h
  obtain ⟨_, _, heq⟩ := Option.map_eq_some_iff.mp hmatch
  cases heq
  exact hr'

/-- Answers a request where every route has a feature set. -/
def handleBy (e : Engine) (handler : Route → FeatureSet) (request : Request) :
    Process HttpResponse :=
  match Route.find? (e.routes.getD []) request.method request.path with
  | none => return .noRoute request.method request.path
  | some (r, captures) =>
    if r.missingQuery request.query ≠ [] then
      return .ofJson 400 (.object [("error", .string "missing required query parameters"),
        ("missing", .array ((r.missingQuery request.query).map .string))])
    else if r.bodyRequired &&
      request.bodyValue.isNull then return .error 400 "request body is required"
    else do
      let id ← freshId
      return answer (← e.fire (handler r) (.http id request r.operation captures) (← e.deadline))

theorem handle_eq {handler : Route → FeatureSet}
    (h : ∀ r ∈ e.routes.getD [], e.featureSet? r.operation = some (handler r)) :
    e.handle = e.handleBy handler := by
  funext request
  rw [handle, handleBy]
  cases hr : Route.find? (e.routes.getD []) request.method request.path with
  | none => rfl
  | some found =>
    obtain ⟨r, captures⟩ := found
    simp only [h r (mem_of_find? hr)]

theorem Serves.exists_handler (h : e.Serves contract app) :
    ∃ handler, (∀ r ∈ e.routes.getD [], e.featureSet? r.operation = some (handler r)) ∧
      e.handle = e.handleBy handler := by
  let handler (r : Route) : FeatureSet := (e.featureSet? r.operation).getD ⟨r.operation, "", []⟩
  have hhandler : ∀ r ∈ e.routes.getD [], e.featureSet? r.operation = some (handler r) := by
    intro r hr
    obtain ⟨f, hf⟩ := Option.isSome_iff_exists.mp (h.operations r hr)
    simp [handler, hf]
  exact ⟨handler, hhandler, handle_eq hhandler⟩

/-- Every subscription that accepts an event has its handler run. -/
theorem handlers_event (h : e.Tied) (event : Event) :
    (Subscription.subscribers e.subscriptions event).map (fun s => e.featureSet? s.featureSet) =
      (e.handlers (.event event)).map some := by
  have hall : ∀ s ∈ Subscription.subscribers e.subscriptions event,
      (e.featureSet? s.featureSet).isSome = true :=
    fun s hs => h.subscriptions s (List.mem_filter.mp hs).1
  rw [handlers]
  generalize Subscription.subscribers e.subscriptions event = subscribers at hall
  induction subscribers with
  | nil => rfl
  | cons s subscribers ih =>
    obtain ⟨hs, hrest⟩ := List.forall_mem_cons.mp hall
    obtain ⟨f, hf⟩ := Option.isSome_iff_exists.mp hs
    rw [List.map_cons, List.filterMap_cons, hf, ih hrest, List.map_cons]

/-- The engine was loaded and subscribed to as often as one likes. -/
def Reachable (registry : Registry) (limits : Limits) (contract : Option Contract)
    (app : Application) (e : Engine) : Prop :=
  ∃ loaded calls, load registry limits contract app = .ok loaded ∧ e = loaded.subscribeAll calls

/-- Loading succeeds if and only if nothing is wrong, and else reports exactly what is. From then on
no route and no subscription leads nowhere. -/
theorem startup_refuses_or_serves (registry : Registry) (limits : Limits)
    (contract : Option Contract) (app : Application) :
    ((∃ e, load registry limits contract app = .ok e) ↔
      ∃ routes, Contract.routesOf contract = .ok routes ∧ app.Startable (routes.getD [])) ∧
    (∀ problems, Contract.routesOf contract = .error problems →
      load registry limits contract app = .error (.contract problems)) ∧
    (∀ routes, Contract.routesOf contract = .ok routes → ¬ app.Startable (routes.getD []) →
      load registry limits contract app = .error (.invalid (app.problems (routes.getD [])))) ∧
    ∀ e, Reachable registry limits contract app e →
      e.Serves contract app ∧
      (∃ handler, (∀ r ∈ e.routes.getD [], e.featureSet? r.operation = some (handler r)) ∧
        e.handle = e.handleBy handler) ∧
      ∀ event, (Subscription.subscribers e.subscriptions event).map
        (fun s => e.featureSet? s.featureSet) =
        (e.handlers (.event event)).map some := by
  refine ⟨?_, fun _ => load_of_error, ?_, ?_⟩
  · simp only [load_ok_iff]
    constructor
    · rintro ⟨_, routes, hroutes, hstartable, -⟩
      exact ⟨routes, hroutes, hstartable⟩
    · rintro ⟨routes, hroutes, hstartable⟩
      exact ⟨_, routes, hroutes, hstartable, rfl⟩
  · intro routes hroutes hstartable
    rw [load_of_ok hroutes, if_neg (mt Application.problems_eq_nil.mp hstartable)]
  · rintro e ⟨loaded, calls, hload, rfl⟩
    have hserves := (serves_of_load hload).subscribeAll calls
    refine ⟨hserves, hserves.exists_handler, handlers_event hserves.toTied⟩

/-- Of two feature sets of one name the second is not looked at any further, and one for the end of
the application is not looked at. In the other application the second of two later calls names no
feature set. -/
theorem duplicate_is_refused_and_route_is_served :
    let bad : Application :=
      ⟨"bad", [⟨"a", "", []⟩, ⟨"a", "Handler", []⟩, ⟨Activity.endName, "Handler", []⟩,
        ⟨"b", "Handler", []⟩]⟩
    let good : Application := ⟨"good", [⟨"a", "", []⟩]⟩
    let contract : Contract := ⟨none, [("/a", ⟨[], [(.get, ⟨some "a", [], false⟩)]⟩)]⟩
    let routes : List Route := [⟨.get, ⟨"/a", [.literal "a"]⟩, "a", [], false⟩]
    Contract.routesOf (some contract) = .ok (some routes) ∧ ¬ bad.Startable routes ∧
    load .builtins {} (some contract) bad =
      .error (.invalid [.duplicateFeatureSet "a", .activity "b" (.missingSubject "Handler")]) ∧
    ∃ e, Reachable .builtins {} (some contract) good e ∧
      e.subscriptions.map (·.featureSet) = ["a"] ∧
      e.Serves (some contract) good := by
  intro bad good contract routes
  have hroutes : Contract.routesOf (some contract) = .ok (some routes) := rfl
  have hbad : ¬ bad.Startable routes := by
    intro h
    exact absurd h.names (by decide)
  have hproblems : bad.problems routes = [.duplicateFeatureSet "a",
      .activity "b" (.missingSubject "Handler")] := by
    decide +kernel
  have hload := (startup_refuses_or_serves .builtins {} (some contract) bad).2.2.1 _ hroutes hbad
  have hgood : good.Startable routes := Application.problems_eq_nil.mp (by decide +kernel)
  let loaded : Engine :=
    (addAll { name := "good", routes, registry := .builtins, limits := {} } good.featureSets).2
  have hreachable : Reachable .builtins {} (some contract) good
      (loaded.subscribeAll [("Started", "", "a"), ("Started", "", "b")]) :=
    ⟨loaded, _, load_ok_iff.mpr ⟨some routes, hroutes, hgood, rfl⟩, rfl⟩
  have hserves := (startup_refuses_or_serves .builtins {} (some contract) good).2.2.2 _ hreachable
  exact ⟨hroutes, hbad, hproblems ▸ hload, _, hreachable, rfl, hserves.1⟩

end Engine

end FeatureFlow
