import FeatureFlow.Proofs.Correspondence
import FeatureFlow.Proofs.Isolation
import FeatureFlow.Proofs.Registry
import FeatureFlow.Proofs.Requests

/-! Two applications side by side. What a caller is answered is settled by the feature set that runs
for the call, before anything else of the application runs. -/
namespace FeatureFlow

variable {α β : Type}

/-- What happens to a task that waits, after all its waits up to now with the shared state and the
deadline of each. It is left waiting, or it is woken and finds the shared state as others have left
it. -/
def Surroundings := List (Services × Option Nat) → Option (Wake × Services)

/-- Shutdown is signalled as soon as something waits. -/
def Surroundings.ending : Surroundings :=
  fun waits => waits.getLast?.map fun wait => (.signal, wait.1)

namespace Task

/-- How a task ends after some waits: all its waits, the shared state and the result. -/
def under (env : Surroundings) (waits : List (Services × Option Nat)) :
    Task α → Option (List (Services × Option Nat) × Services × α)
  | done s a => some (waits, s, a)
  | waiting s d resume => (env (waits ++ [(s, d)])).bind fun woken =>
    (resume woken.1 woken.2).under env (waits ++ [(s, d)])

/-- The result of a task, if it ends. -/
def result? (env : Surroundings) (t : Task α) : Option α := (t.under env []).map (·.2.2)

variable {env : Surroundings}

theorem under_bind {t : Task α} {f : α → Services → Task β} {waits : List (Services × Option Nat)} :
    (t.bind f).under env waits = (t.under env waits).bind fun r =>
      (f r.2.2 r.2.1).under env r.1 := by
  induction t generalizing waits with
  | done s a => rfl
  | waiting s d resume ih =>
    simp only [bind, under, ih, Option.bind_assoc]

/-- When shutdown is signalled everything ends. -/
theorem under_ending {t : Task α} {waits : List (Services × Option Nat)} :
    (t.under .ending waits).map (·.2.2) = some t.signalled.2 := by
  induction t generalizing waits with
  | done s a => rfl
  | waiting s d resume ih =>
    rw [under, Surroundings.ending, List.getLast?_append, List.getLast?_singleton]
    exact ih .signal s

/-- What one task settles, no continuation changes that ends with it. -/
theorem result?_bind_unique {t : Task α} {f g : α → Services → Task β} {k : α → β} {b c : β}
    (hf : ∀ a s waits r, (f a s).under env waits = some r → r.2.2 = k a)
    (hg : ∀ a s waits r, (g a s).under env waits = some r → r.2.2 = k a)
    (hb : (t.bind f).result? env = some b) (hc : (t.bind g).result? env = some c) : b = c := by
  obtain ⟨r, hr, rfl⟩ := Option.map_eq_some_iff.mp hb
  obtain ⟨r', hr', rfl⟩ := Option.map_eq_some_iff.mp hc
  rw [under_bind] at hr hr'
  obtain ⟨q, hq, hfr⟩ := Option.bind_eq_some_iff.mp hr
  obtain ⟨q', hq', hgr⟩ := Option.bind_eq_some_iff.mp hr'
  obtain rfl : q = q' := Option.some.inj (hq.symm.trans hq')
  rw [hf _ _ _ _ hfr, hg _ _ _ _ hgr]

end Task

/-- The same name, and the same bindings in each layer. The outer layers may be named otherwise. -/
structure Scope.SameBindings (a b : Scope) : Prop where
  name : a.name = b.name
  bindings : a.bindings = b.bindings
  parents : a.parents.map (·.bindings) = b.parents.map (·.bindings)

namespace Scope.SameBindings

variable {a b : Scope}

theorem find? (h : a.SameBindings b) : a.find? = b.find? := by
  have hparents (s : Scope) (x : String) :
      (s.parents.findSome? fun layer => layer.bindings.get? x) =
        (s.parents.map (·.bindings)).findSome? (·.get? x) := by
    rw [List.findSome?_map]
    rfl
  funext x
  rw [Scope.find?, Scope.find?, hparents, hparents, h.bindings, h.parents]

theorem bind (h : a.SameBindings b) (x : String) (v : Value) :
    (a.bind x v).SameBindings (b.bind x v) :=
  ⟨h.name, congrArg (·.insert x v) h.bindings, h.parents⟩

theorem bindAll (h : a.SameBindings b) (entries : List (String × Value)) :
    (a.bindAll entries).SameBindings (b.bindAll entries) := by
  induction entries generalizing a b with
  | nil => exact h
  | cons entry entries ih => exact ih (h.bind entry.1 entry.2)

theorem of_snapshot (s : Scope) : s.SameBindings s.snapshot.2 := by
  have h : s.BindsOnly (fun _ => False) s.snapshot.2 := .snapshot
  exact ⟨h.name.symm, (h.bindings_eq fun _ => id).symm, by rw [h.parents]⟩

theorem symm (h : a.SameBindings b) : b.SameBindings a :=
  ⟨h.name.symm, h.bindings.symm, h.parents.symm⟩

theorem trans {c : Scope} (h : a.SameBindings b) (h' : b.SameBindings c) : a.SameBindings c :=
  ⟨h.name.trans h'.name, h.bindings.trans h'.bindings, h.parents.trans h'.parents⟩

theorem snapshot (h : a.SameBindings b) : a.snapshot.2.SameBindings b.snapshot.2 :=
  ((of_snapshot a).symm.trans h).trans (of_snapshot b)

theorem child (h : a.SameBindings b) (name : String) :
    (a.child name).1.SameBindings (b.child name).1 := by
  rw [child_fst, child_fst]
  refine ⟨rfl, rfl, ?_⟩
  rw [fresh, fresh, List.map_cons, List.map_cons, h.bindings, h.parents]

end Scope.SameBindings

/-- An action that does not look at the names of outer layers. -/
def Action.Blind (a : Action) : Prop :=
  ∀ scope scope', scope.SameBindings scope' → a.run scope = a.run scope'

def Registry.Blind (registry : Registry) : Prop := ∀ verb a, registry.get? verb = some a → a.Blind

/-- The built-in actions know a scope by its name and by what is found in it. -/
theorem Action.builtin_run_eq {a : Action} (ha : a ∈ Registry.builtinActions) {scope scope' : Scope}
    (hname : scope.name = scope'.name) (hfind : scope.find? = scope'.find?) :
    a.run scope = a.run scope' := by
  have hresolve := Scope.resolve_congr hfind
  have hlookup : ActionM.resolve scope = ActionM.resolve scope' := by
    funext x
    simp only [ActionM.resolve, hresolve]
  have heval : ActionM.eval scope = ActionM.eval scope' := by
    funext e
    simp only [ActionM.eval, Scope.eval, hresolve]
  simp only [Registry.builtinActions, List.mem_cons, List.not_mem_nil, or_false] at ha
  rcases ha with rfl | rfl | rfl | rfl | rfl | rfl | rfl | rfl |
    rfl | rfl | rfl | rfl | rfl | rfl | rfl
  · simp only [extract, ofValue, heval]
  · simp only [retrieve, heval]
  · simp only [create, ofValue, heval]
  · simp only [validate, ofValue, heval]
  · simp only [update, hlookup, heval]
  · simp only [accept, hlookup]
  · simp only [return_, ofValue, heval]
  · simp only [throw_, ofValue, heval]
  · simp only [log, heval, hname]
  · simp only [emit, heval]
  · simp only [publish, heval]
  · simp only [store, hlookup]
  · rfl
  · rfl
  · simp only [keepalive, hname]

theorem Registry.builtins_blind : Registry.builtins.Blind :=
  fun _ _ ha _ _ h => Action.builtin_run_eq (get?_builtins.mp ha).1 h.name h.find?

/-- Runs that differ in the names of outer layers only. -/
def Correspondence.ofBindings : Correspondence where
  scope := Scope.SameBindings
  outbox := Eq
  shared := Eq
  waiting := Eq
  deadline := fun _ => True
  name h := h.name
  find? h := h.find?
  bind h := h.bind
  snapshot h := h.snapshot
  child h := h.child
  symbols h := h ▸ rfl
  elapse h := h ▸ rfl
  late h _ := h ▸ rfl
  crash h _ := h ▸ rfl

namespace Engine

variable {registry : Registry} {limits : Limits} {contract : Option Contract}
    {app app₁ app₂ : Application} {e e' e₁ e₂ : Engine} {f : FeatureSet} {t : Trigger}
    {deadline : Option Nat} {request : Request}

structure Configured (registry : Registry) (limits : Limits) (app : Application) (e : Engine) :
    Prop where
  name : e.name = app.name
  registry : e.registry = registry
  limits : e.limits = limits

theorem Configured.tie (h : e.Configured registry limits app) (activity : Activity) :
    (e.tie f activity).Configured registry limits app := by
  cases activity <;> exact ⟨h.name, h.registry, h.limits⟩

theorem Added.configured {problems : List StartupProblem} (he : e.Configured registry limits app)
    (h : Added e f problems e') : e'.Configured registry limits app := by
  have hadded : Configured registry limits app { e with featureSets := e.featureSets ++ [f] } :=
    ⟨he.name, he.registry, he.limits⟩
  cases h with
  | ended => exact ⟨he.name, he.registry, he.limits⟩
  | repeated => exact he
  | tied => exact hadded.tie _
  | untied => exact hadded

theorem Configured.subscribe (h : e.Configured registry limits app) {type guard featureSet : String}
    (hs : e.subscribe type guard featureSet = .ok e') : e'.Configured registry limits app := by
  obtain ⟨s, -, rfl⟩ := subscribe_ok hs
  exact ⟨h.name, h.registry, h.limits⟩

theorem Reachable.configured (h : Reachable registry limits contract app e) :
    e.Configured registry limits app := by
  obtain ⟨loaded, calls, hload, rfl⟩ := h
  obtain ⟨routes, -, -, rfl⟩ := load_ok_iff.mp hload
  have hstart : Configured registry limits app { name := app.name, routes, registry, limits } :=
    ⟨rfl, rfl, rfl⟩
  exact subscribeAll_invariant calls (fun h hs => h.subscribe hs)
    (addAll_invariant Added.configured hstart)

theorem find?_of_nodup {fs : List FeatureSet} (h : (fs.map (·.name)).Nodup) (hf : f ∈ fs) :
    fs.find? (·.name = f.name) = some f := by
  induction fs with
  | nil => cases hf
  | cons g fs ih =>
    rw [List.map_cons, List.nodup_cons] at h
    rcases List.mem_cons.mp hf with rfl | hf
    · simp
    · have hne : g.name ≠ f.name := fun heq => h.1 (heq ▸ List.mem_map_of_mem hf)
      rw [List.find?_cons_of_neg (by simpa using hne), ih h.2 hf]

/-- A feature set of the application is found by its name, unless it is for the end. -/
theorem Reachable.featureSet?_eq (h : Reachable registry limits contract app e)
    (hf : f ∈ app.featureSets) :
    e.featureSet? f.name = if f.name = Activity.endName then none else some f := by
  have hserves := h.serves
  obtain ⟨loaded, calls, hload, rfl⟩ := h
  obtain ⟨routes, -, hstartable, -⟩ := load_ok_iff.mp hload
  rw [featureSet?, hserves.featureSets]
  split
  · rename_i hend
    rw [List.find?_eq_none]
    intro g hg
    have hne : g.name ≠ Activity.endName := by simpa using (List.mem_filter.mp hg).2
    simpa [hend] using hne
  · rename_i hne
    exact find?_of_nodup hstartable.names (List.mem_filter.mpr ⟨hf, by simpa using hne⟩)

/-- Engines of one contract rule alike on a request whose feature set they have in common. -/
theorem ruling_congr (h₁ : Reachable registry limits contract app₁ e₁)
    (h₂ : Reachable registry limits contract app₂ e₂)
    (h : ∀ d captures, asked? contract request = some (d, captures) → ∃ f,
      f ∈ app₁.featureSets ∧ f ∈ app₂.featureSets ∧ d.operation.id = some f.name) :
    e₁.ruling request = e₂.ruling request := by
  have hroutes : e₁.routes = e₂.routes :=
    Except.ok.inj (h₁.serves.routes.symm.trans h₂.serves.routes)
  cases ha : asked? contract request with
  | none =>
    rw [ruling, ruling, h₁.serves.find?_none ha, h₂.serves.find?_none ha]
  | some asked =>
    obtain ⟨d, captures⟩ := asked
    obtain ⟨f, hf₁, hf₂, hid⟩ := h d captures ha
    obtain ⟨r, hgives, hfind⟩ := h₁.serves.find?_some ha
    have hname : r.operation = f.name := Option.some.inj (hgives.operation.symm.trans hid)
    have hfeatureSet : e₁.featureSet? r.operation = e₂.featureSet? r.operation := by
      rw [hname, h₁.featureSet?_eq hf₁, h₂.featureSet?_eq hf₂]
    rw [ruling, ruling, ← hroutes, hfind]
    simp only [hfeatureSet]

theorem scopeFor_congr (h : e₁.name = e₂.name) : e₁.scopeFor f t = e₂.scopeFor f t := by
  simp only [scopeFor, h]

theorem scopeFor_sameBindings : (e₁.scopeFor f t).SameBindings (e₂.scopeFor f t) := by
  let root (e : Engine) : Snapshot := ⟨⟨e.name, []⟩, []⟩
  have hscope (e : Engine) : e.scopeFor f t = ((root e).spawn f.name).bindAll (t.bindings f.name) :=
    rfl
  have hspawn : ((root e₁).spawn f.name).SameBindings ((root e₂).spawn f.name) := ⟨rfl, rfl, rfl⟩
  rw [hscope, hscope]
  exact hspawn.bindAll (t.bindings f.name)

/-- Of an engine a run for a trigger needs the registry, and its name only where actions look at the
names of outer layers. -/
theorem runHandler_congr (hregistry : e₁.registry = e₂.registry)
    (hnames : e₁.name = e₂.name ∨ e₁.registry.Blind) :
    e₁.runHandler f t deadline = e₂.runHandler f t deadline := by
  rcases hnames with hname | hblind
  · rw [runHandler, runHandler, scopeFor_congr hname, hregistry]
  · funext s
    have hadmits : Correspondence.ofBindings.AdmitsAll e₁.registry f.commands := by
      intro c _ a ha scope scope' d target object hscope o o' s s' ho hs
      subst ho hs
      rw [hblind c.action a ha scope scope' hscope]
      exact Task.Rel.refl (fun _ => ⟨rfl, rfl⟩) _
    apply Task.Rel.eq
    rw [runHandler, runHandler, ← hregistry]
    refine (Correspondence.run_rel hadmits scopeFor_sameBindings rfl trivial rfl).bind ?_
    rintro run run' s s' ⟨hresult, hout⟩ rfl
    obtain ⟨result, scope, outbox⟩ := run
    obtain ⟨result', scope', outbox'⟩ := run'
    cases hresult
    cases hout
    exact Task.Rel.refl (fun _ => rfl) _

/-- What is made of a run is settled before its emissions are dispatched. -/
theorem fire_result_unique {k : HandlerRun → α} {env : Surroundings} {s : Services} {a b : α}
    (hrun : e₁.runHandler f t deadline = e₂.runHandler f t deadline)
    (ha : ((k <$> e₁.fire f t deadline) s).result? env = some a)
    (hb : ((k <$> e₂.fire f t deadline) s).result? env = some b) : a = b := by
  have hfire (e : Engine) : (k <$> e.fire f t deadline) s = (e.runHandler f t deadline s).bind
    fun run s =>
      (e.dispatchAll run.emissions s).bind fun _ s => .done s (k { run with emissions := [] }) := by
    simp only [fire, map_bind, map_pure]
    rfl
  have hkept (e : Engine) (run : HandlerRun) (s : Services) (waits : List (Services × Option Nat))
      (r : List (Services × Option Nat) × Services × α)
      (h : ((e.dispatchAll run.emissions s).bind fun _ s =>
        .done s (k { run with emissions := [] })).under env waits = some r) :
      r.2.2 = k { run with emissions := [] } := by
    rw [Task.under_bind] at h
    obtain ⟨q, -, hd⟩ := Option.bind_eq_some_iff.mp h
    cases hd
    rfl
  rw [hfire, hrun] at ha
  rw [hfire] at hb
  exact Task.result?_bind_unique (hkept e₁) (hkept e₂) ha hb

/-- Take two engines of one contract and one configuration that start from one state in the same
surroundings. If their applications have in common the feature set that a request is for, and both
answer it, then they answer the same, whatever else the applications hold. So it is with an
invocation and all that is returned of its run. -/
theorem answers_independent_of_other_feature_sets {registry : Registry} {limits : Limits}
    {contract : Option Contract} {app₁ app₂ : Application} {e₁ e₂ : Engine}
    (h₁ : Reachable registry limits contract app₁ e₁)
    (h₂ : Reachable registry limits contract app₂ e₂)
    (hnames : app₁.name = app₂.name ∨ registry.Blind) (env : Surroundings) (s : Services) :
    (∀ request, (∀ d captures, asked? contract request = some (d, captures) →
        ∃ f, f ∈ app₁.featureSets ∧ f ∈ app₂.featureSets ∧ d.operation.id = some f.name) →
      ∀ r₁ r₂, (e₁.handle request s).result? env = some r₁ →
        (e₂.handle request s).result? env = some r₂ → r₁ = r₂) ∧
    ∀ f, f ∈ app₁.featureSets → f ∈ app₂.featureSets → ∀ input r₁ r₂,
      (e₁.invoke f.name input s).result? env = some r₁ →
        (e₂.invoke f.name input s).result? env = some r₂ → r₁ = r₂ := by
  have hrun (f : FeatureSet) (t : Trigger) (deadline : Option Nat) :
      e₁.runHandler f t deadline = e₂.runHandler f t deadline := by
    apply runHandler_congr
    · rw [h₁.configured.registry, h₂.configured.registry]
    · rwa [h₁.configured.name, h₂.configured.name, h₁.configured.registry]
  have hlimits : e₁.limits = e₂.limits := h₁.configured.limits.trans h₂.configured.limits.symm
  refine ⟨?_, ?_⟩
  · intro request hcommon r₁ r₂ hr₁ hr₂
    rw [handle_eq_follow, ruling_congr h₁ h₂ hcommon] at hr₁
    rw [handle_eq_follow] at hr₂
    cases hruling : e₂.ruling request with
    | refuse response =>
      rw [hruling] at hr₁ hr₂
      exact Option.some.inj (hr₁.symm.trans hr₂)
    | run f operation captures =>
      rw [hruling] at hr₁ hr₂
      refine fire_result_unique (hrun f (.http s.fresh request operation captures)
        (e₂.limits.timeout.map (s.clock + ·))) ?_ hr₂
      rw [← hlimits]
      exact hr₁
  · intro f hf₁ hf₂ input r₁ r₂ hr₁ hr₂
    rw [invoke, h₁.featureSet?_eq hf₁] at hr₁
    rw [invoke, h₂.featureSet?_eq hf₂] at hr₂
    by_cases hend : f.name = Activity.endName
    · rw [if_pos hend] at hr₁ hr₂
      exact Option.some.inj (hr₁.symm.trans hr₂)
    · rw [if_neg hend] at hr₁ hr₂
      refine fire_result_unique (k := some) (hrun f (.invocation s.fresh input)
        (e₂.limits.timeout.map (s.clock + ·))) ?_ hr₂
      rw [← hlimits]
      exact hr₁

/-- In one of two shops the event of a request starts a handler that publishes the symbol which the
request asks for, and fails. The other shop has no handler. -/
theorem shops_with_other_handlers_answer_alike :
    let shown : Command := ⟨"Emit", ⟨"Shown", none, .whole⟩, ⟨.with_, .literal .null, none⟩, none⟩
    let done : Command := ⟨"Return", ⟨"OK", none, .whole⟩,
      ⟨.with_, .reference "symbol" [] .whole, none⟩, none⟩
    let publish : Command := ⟨"Publish", ⟨"symbol", none, .whole⟩,
      ⟨.with_, .literal .null, none⟩, none⟩
    let fail : Command := ⟨"Throw", ⟨"Failed", none, .whole⟩, ⟨.for_, .literal .null, none⟩, none⟩
    let list : FeatureSet := ⟨"list", "", [.act shown, .act done]⟩
    let contract : Contract := ⟨none, [("/items", ⟨[], [(.get, ⟨some "list", [], false⟩)]⟩)]⟩
    let one : Application := ⟨"shop", [list, ⟨"audit", "Shown Handler", [.act publish, .act fail]⟩]⟩
    let other : Application := ⟨"market", [list]⟩
    let request : Request := { method := "get", path := "/items" }
    ∃ e₁ e₂, Reachable .builtins {} (some contract) one e₁ ∧
      Reachable .builtins {} (some contract) other e₂ ∧
      Registry.builtins.Blind ∧
      (∀ d captures, asked? (some contract) request = some (d, captures) →
        ∃ f, f ∈ one.featureSets ∧ f ∈ other.featureSets ∧ d.operation.id = some f.name) ∧
      ∃ response, (e₁.handle request {}).result? .ending = some response ∧
        (e₂.handle request {}).result? .ending = some response := by
  intro shown done publish fail list contract one other request
  let route : Route := ⟨.get, ⟨"/items", [.literal "items"]⟩, "list", [], false⟩
  have hroutes : Contract.routesOf (some contract) = .ok (some [route]) :=
    eq_ok_of_toOption (by decide +kernel)
  have hone : one.Startable [route] := Application.problems_eq_nil.mp (by decide +kernel)
  have hother : other.Startable [route] := Application.problems_eq_nil.mp (by decide +kernel)
  obtain ⟨e₁, h₁⟩ : ∃ e, Reachable .builtins {} (some contract) one e :=
    ⟨_, _, [], load_ok_iff.mpr ⟨_, hroutes, hone, rfl⟩, rfl⟩
  obtain ⟨e₂, h₂⟩ : ∃ e, Reachable .builtins {} (some contract) other e :=
    ⟨_, _, [], load_ok_iff.mpr ⟨_, hroutes, hother, rfl⟩, rfl⟩
  have hcommon : ∀ d captures, asked? (some contract) request = some (d, captures) →
      ∃ f, f ∈ one.featureSets ∧ f ∈ other.featureSets ∧ d.operation.id = some f.name := by
    intro d captures hasked
    have hid : (asked? (some contract) request).map (·.1.operation.id) = some (some "list") := by
      decide +kernel
    rw [hasked] at hid
    exact ⟨list, by simp [one], by simp [other], Option.some.inj hid⟩
  obtain ⟨response, hr₁⟩ : ∃ r, (e₁.handle request {}).result? .ending = some r :=
    ⟨_, Task.under_ending⟩
  obtain ⟨response', hr₂⟩ : ∃ r, (e₂.handle request {}).result? .ending = some r :=
    ⟨_, Task.under_ending⟩
  obtain ⟨hhandle, -⟩ := answers_independent_of_other_feature_sets h₁ h₂
    (.inr Registry.builtins_blind) .ending {}
  obtain rfl : response = response' := hhandle request hcommon _ _ hr₁ hr₂
  exact ⟨e₁, e₂, h₁, h₂, Registry.builtins_blind, hcommon, response, hr₁, hr₂⟩

end Engine

end FeatureFlow
