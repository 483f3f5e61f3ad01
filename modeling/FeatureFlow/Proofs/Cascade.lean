import FeatureFlow.Proofs.Handling
import FeatureFlow.Proofs.Levels

/-! Failures in a cascade. A second router does what the first one does and keeps a record of the
handlers it ran; the record shows that each failure is reported once, and that none of it stops
anything else. -/
namespace FeatureFlow

namespace Dispatch

section Erasure

variable {m : Type → Type} [Monad m] [LawfulMonad m] {σ α β : Type}

/-- The first computation is the second one with a record kept beside. -/
def Erases (x : StateT σ m α) (y : m α) : Prop := ∀ log, Prod.fst <$> x.run log = y

theorem erases_pure (a : α) : Erases (pure a : StateT σ m α) (pure a) := by
  intro log
  simp

theorem Erases.bind {x : StateT σ m α} {y : m α} {f : α → StateT σ m β} {g : α → m β}
    (hx : Erases x y) (hf : ∀ a, Erases (f a) (g a)) : Erases (x >>= f) (y >>= g) := by
  intro log
  have hrest : ∀ p : α × σ, Prod.fst <$> (f p.1).run p.2 = g p.1 := fun p => hf p.1 p.2
  rw [StateT.run_bind, map_bind, ← hx log, bind_map_left]
  exact bind_congr hrest

variable {record : Event → m Unit} {route : Emission → m (List Emission)}
    {record' : Event → StateT σ m Unit} {route' : Emission → StateT σ m (List Emission)}
    (hrecord : ∀ e, Erases (record' e) (record e)) (hroute : ∀ e, Erases (route' e) (route e))

include hrecord hroute

theorem visit_erases (e : Emission) : Erases (visit record' route' e) (visit record route e) := by
  cases e with
  | event event => exact (hrecord event).bind fun _ => (hroute _).bind fun _ => erases_pure _
  | _ => exact (hroute _).bind fun _ => erases_pure _

theorem visitAll_erases (level : List Emission) :
    Erases (visitAll record' route' level) (visitAll record route level) := by
  induction level with
  | nil => exact erases_pure _
  | cons e level ih =>
    exact (visit_erases hrecord hroute e).bind fun _ => ih.bind fun _ => erases_pure _

end Erasure

end Dispatch

namespace Engine

/-- An emission that was routed, and the runs of its handlers. -/
structure Visit where
  emission : Emission
  handlings : List Handling

/-- What came out of it. -/
def Visit.children (v : Visit) : List Emission := v.handlings.flatMap (·.emissions)

/-- Runs the handlers of an emission. -/
def handleAll (e : Engine) (emission : Emission) : Process (List Handling) := do
  let deadline ← e.deadline
  Process.gather ((e.handlers emission).map fun f => e.handling f (.ofEmission emission) deadline)

theorem handleAll_eq (e : Engine) (emission : Emission) (s : Services) :
    e.handleAll emission s = Process.gather ((e.handlers emission).map fun f =>
      e.handling f (.ofEmission emission) (e.limits.timeout.map (s.clock + ·))) s := rfl

theorem route_eq (e : Engine) (emission : Emission) :
    e.route emission = List.flatMap Handling.emissions <$> e.handleAll emission := by
  have hruns : ∀ deadline,
      (e.handlers emission).map (fun f => e.runHandler f (.ofEmission emission) deadline) =
        ((e.handlers emission).map fun f => e.handling f (.ofEmission emission) deadline).map
          (Handling.handlerRun <$> ·) := by
    intro deadline
    rw [List.map_map]
    exact List.map_congr_left fun f _ => e.runHandler_eq f _ deadline
  have hflat : ∀ hs : List Handling, (hs.map Handling.handlerRun).flatMap (·.emissions) =
      hs.flatMap Handling.emissions := by
    intro hs
    rw [List.flatMap_map]
    rfl
  simp only [route, handleAll, hruns, Process.gather_map, map_bind, bind_map_left, hflat]
  rfl

/-- What is written down when an event is recorded, and when an emission has been routed. -/
structure Recorder (ω : Type) where
  recorded : Event → List ω
  routed : Visit → List ω

namespace Recorder

variable {ω : Type} (recorder : Recorder ω)

/-- What is written down for one emission: an event is recorded before it is routed. -/
def entries (v : Visit) : List ω :=
  match v.emission with
  | .event event => recorder.recorded event ++ recorder.routed v
  | _ => recorder.routed v

def record (event : Event) : StateT (List ω) Process Unit := do
  StateT.lift (Process.modify (·.record event))
  modify (· ++ recorder.recorded event)

/-- Runs the handlers of an emission and writes it down. -/
def route (e : Engine) (emission : Emission) : StateT (List ω) Process (List Emission) := do
  let v : Visit := ⟨emission, ← StateT.lift (e.handleAll emission)⟩
  modify (· ++ recorder.routed v)
  return v.children

theorem record_erases (event : Event) :
    Dispatch.Erases (recorder.record event) (Process.modify (·.record event)) := by
  intro log
  simp [record]

theorem route_erases (e : Engine) (emission : Emission) :
    Dispatch.Erases (recorder.route e emission) (e.route emission) := by
  intro log
  rw [route_eq]
  simp [route, Visit.children]

end Recorder

section Recount

variable {ω : Type} (e : Engine) (recorder : Nat → Recorder ω)

/-- Routes so many levels, from one of this depth on, and drops the one after them. What is written
down may depend on the depth. -/
def descend (depth : Nat) : Nat → List Emission → Report → StateT (List ω) Process Report
  | 0, level, r => return { r with dropped := r.dropped + level.length }
  | levels + 1, level, r => do
    let next ← Dispatch.visitAll (recorder depth).record ((recorder depth).route e) level
    descend (depth + 1) levels next { r with dispatched := r.dispatched + level.length }

/-- Dispatches an emission and returns what has been written down. -/
def recount (root : Emission) : Process (Report × List ω) :=
  (e.descend recorder 0 (e.limits.cascade + 1) [root] {}).run []

theorem descend_erases (depth levels : Nat) (level : List Emission) (r : Report) :
    Dispatch.Erases (e.descend recorder depth levels level r)
      (Dispatch.expand (fun event => Process.modify (·.record event)) e.route levels level r) := by
  induction levels generalizing depth level r with
  | zero => exact Dispatch.erases_pure _
  | succ levels ih =>
    have hlevel := Dispatch.visitAll_erases (recorder depth).record_erases
      ((recorder depth).route_erases e) level
    exact hlevel.bind fun next => ih (depth + 1) next _

/-- The record is kept beside what would be done anyway. -/
theorem notify_eq_recount (root : Emission) :
    e.notify root = Prod.fst <$> e.recount recorder root := by
  rw [notify, Dispatch.dispatch_eq_expand]
  exact (e.descend_erases recorder 0 _ _ _ _).symm

theorem discard_notify {γ : Type} (keep : List ω → γ) (root : Emission) : discard (e.notify root) =
    discard (do return keep (← e.recount recorder root).2 : Process γ) := by
  simp only [discard, Functor.discard, map_const, Function.comp_apply, e.notify_eq_recount recorder,
    bind_pure_comp, Functor.map_map, Function.const]

end Recount

/-- Writes down what is routed. -/
def Recorder.visits : Recorder Visit := ⟨fun _ => [], fun v => [v]⟩

/-- Dispatches an emission and returns the record of what was routed. -/
def observe (e : Engine) (root : Emission) : Process (Report × List Visit) :=
  e.recount (fun _ => .visits) root

namespace Handling

def failed (h : Handling) : Bool :=
  match h.run.result with
  | .ok _ => false
  | .error _ => true

/-- The run has failed, and it was not started by the report of a failure. -/
def reportable (h : Handling) : Bool := h.failed && h.trigger.eventType? != some Event.failureType

end Handling

theorem Noticed.length {h : Handling} (hn : Noticed h.featureSet h.trigger h.run.result h.notice) :
    h.notice.length = if h.reportable then 1 else 0 := by
  obtain ⟨f, t, ⟨result, scope, outbox⟩, notice⟩ := h
  cases hn with
  | success => rfl
  | silent ht => simp [Handling.reportable, ht]
  | reported ht _ => simp [Handling.reportable, Handling.failed, ht]

theorem causedBy_causedBy (e : Emission) (id : Uuid) :
    (e.causedBy id).causedBy id = e.causedBy id := by
  cases e with
  | event event => cases h : event.causedBy <;> simp [Emission.causedBy, h]
  | _ => rfl

/-- All that a handler gives out has its cause. -/
theorem Noticed.caused {h : Handling} (hn : Noticed h.featureSet h.trigger h.run.result h.notice) :
    h.emissions.map (·.causedBy h.trigger.id) = h.emissions := by
  have hnotice : h.notice.map (·.causedBy h.trigger.id) = h.notice := by
    generalize h.run.result = result, h.notice = notice at hn ⊢
    cases hn with
    | @reported cause event _ he =>
      obtain ⟨id, type, payload, createdAt, causedBy⟩ := event
      obtain rfl : causedBy = some h.trigger.id := he.causedBy
      rfl
    | _ => rfl
  rw [Handling.emissions, List.map_append, List.map_map, hnotice]
  congr 1
  exact List.map_congr_left fun e _ => causedBy_causedBy e _

/-- The visit is one that the engine can make of its emission: each handler has run, as it can
beside others. -/
structure Visit.Made (e : Engine) (v : Visit) : Prop where
  handlers : v.handlings.map (·.featureSet) = e.handlers v.emission
  trigger : ∀ h ∈ v.handlings, h.trigger = .ofEmission v.emission
  handled : ∀ h ∈ v.handlings, ∃ deadline s s', Handled anything e deadline s h s'

theorem Trigger.id_ofEmission (e : Emission) : (Trigger.ofEmission e).id = e.id := by
  cases e <;> rfl

theorem Visit.Made.caused {e : Engine} {v : Visit} (h : v.Made e) :
    v.children.map (·.causedBy v.emission.id) = v.children := by
  rw [children, List.map_flatMap, List.flatMap_def, List.flatMap_def]
  congr 1
  apply List.map_congr_left
  intro g hg
  obtain ⟨_, _, _, hh⟩ := h.handled g hg
  have hc := hh.noticed.caused
  rwa [h.trigger g hg, Trigger.id_ofEmission] at hc

variable {others : Services → Services → Prop} {e : Engine} {s s' : Services}
    {log log' : List Visit}

theorem ends_handleAll {emission : Emission} {handlings : List Handling}
    (h : Task.Ends others (e.handleAll emission s) s' handlings) :
    Visit.Made e ⟨emission, handlings⟩ := by
  rw [handleAll_eq] at h
  obtain ⟨hkeys, hall⟩ := Process.ends_gather Handling.featureSet
    (fun h => h.trigger = .ofEmission emission ∧ ∃ deadline s s',
      Handled anything e deadline s h s')
    (by
      intro f s s' h hh
      obtain ⟨hf, ht, hhandled⟩ := ends_handling hh
      exact ⟨hf, ht, _, _, _, hhandled⟩) h
  exact ⟨hkeys, fun h hh => (hall h hh).1, fun h hh => (hall h hh).2⟩

section Record

variable {α β σ : Type}

theorem ends_run_bind {x : StateT σ Process α} {f : α → StateT σ Process β} {log : σ} {p : β × σ} :
    Task.Ends others ((x >>= f).run log s) s' p ↔
      ∃ s₁ a log₁, Task.Ends others (x.run log s) s₁ (a, log₁) ∧
        Task.Ends others ((f a).run log₁ s₁) s' p := by
  refine Iff.trans Task.ends_bind ?_
  constructor
  · rintro ⟨s₁, ⟨a, log₁⟩, hx, hf⟩
    exact ⟨s₁, a, log₁, hx, hf⟩
  · rintro ⟨s₁, a, log₁, hx, hf⟩
    exact ⟨s₁, (a, log₁), hx, hf⟩

theorem ends_run_pure {a : α} {log : σ} {p : α × σ} :
    Task.Ends others ((pure a : StateT σ Process α).run log s) s' p ↔ s' = s ∧ p = (a, log) :=
      Task.ends_done

theorem ends_run_lift {x : Process α} {log log' : σ} {a : α} :
    Task.Ends others ((StateT.lift x).run log s) s' (a, log') ↔
      Task.Ends others (x s) s' a ∧ log' = log := by
  refine Iff.trans Task.ends_bind ?_
  constructor
  · rintro ⟨s₁, a', hx, hd⟩
    obtain ⟨rfl, heq⟩ := Task.ends_done.mp hd
    cases heq
    exact ⟨hx, rfl⟩
  · rintro ⟨hx, rfl⟩
    exact ⟨s', a, hx, .done⟩

end Record

namespace Recorder

variable {ω : Type} {recorder : Recorder ω} {log log' : List ω}

theorem ends_record {event : Event} {u : Unit}
    (h : Task.Ends others ((recorder.record event).run log s) s' (u, log')) :
    log' = log ++ recorder.recorded event := by
  obtain ⟨s₁, _, log₁, hlift, hmodify⟩ := ends_run_bind.mp h
  obtain ⟨-, rfl⟩ := ends_run_lift.mp hlift
  obtain ⟨-, heq⟩ := Task.ends_done.mp hmodify
  cases heq
  rfl

theorem ends_route {emission : Emission} {children : List Emission}
    (h : Task.Ends others ((recorder.route e emission).run log s) s' (children, log')) :
    ∃ v : Visit, v.Made e ∧ v.emission = emission ∧ log' = log ++ recorder.routed v ∧
      children = v.children := by
  obtain ⟨s₁, handlings, log₁, hlift, hrest⟩ := ends_run_bind.mp h
  obtain ⟨hall, rfl⟩ := ends_run_lift.mp hlift
  obtain ⟨-, heq⟩ := Task.ends_done.mp hrest
  cases heq
  exact ⟨⟨emission, handlings⟩, ends_handleAll hall, rfl, rfl, rfl⟩

/-- One step of a cascade: an emission is routed, and what comes out has it for its cause already.
-/
theorem ends_visit {emission : Emission} {children : List Emission}
    (h : Task.Ends others ((Dispatch.visit recorder.record (recorder.route e) emission).run log s)
      s' (children, log')) :
    ∃ v : Visit, v.Made e ∧ v.emission = emission ∧ log' = log ++ recorder.entries v ∧
      children = v.children := by
  have hrouted {log : List ω} {s : Services} (h : Task.Ends others
      ((do return (← recorder.route e emission).map (Emission.causedBy emission.id)).run log s) s'
      (children, log')) :
      ∃ v : Visit, v.Made e ∧ v.emission = emission ∧ log' = log ++ recorder.routed v ∧
        children = v.children := by
    obtain ⟨s₁, given, log₁, hroute, hp⟩ := ends_run_bind.mp h
    obtain ⟨v, hv, rfl, rfl, rfl⟩ := ends_route hroute
    obtain ⟨-, heq⟩ := ends_run_pure.mp hp
    rw [hv.caused] at heq
    cases heq
    exact ⟨v, hv, rfl, rfl, rfl⟩
  cases emission with
  | event event =>
    obtain ⟨s₁, _, log₁, hrecord, hrest⟩ := ends_run_bind.mp h
    obtain rfl := ends_record hrecord
    obtain ⟨v, hv, hemission, rfl, hchildren⟩ := hrouted hrest
    refine ⟨v, hv, hemission, ?_, hchildren⟩
    rw [entries, hemission, List.append_assoc]
  | _ =>
    obtain ⟨v, hv, hemission, rfl, hchildren⟩ := hrouted h
    refine ⟨v, hv, hemission, ?_, hchildren⟩
    rw [entries, hemission]

/-- One level of a cascade. -/
theorem ends_visitAll {level next : List Emission}
    (h : Task.Ends others ((Dispatch.visitAll recorder.record (recorder.route e) level).run log s)
      s' (next, log')) :
    ∃ visits : List Visit, (∀ v ∈ visits, v.Made e) ∧ visits.map (·.emission) = level ∧
      log' = log ++ visits.flatMap recorder.entries ∧ next = visits.flatMap (·.children) := by
  induction level generalizing log log' s s' next with
  | nil =>
    obtain ⟨-, heq⟩ := ends_run_pure.mp h
    cases heq
    exact ⟨[], by simp, rfl, (List.append_nil _).symm, rfl⟩
  | cons emission level ih =>
    obtain ⟨s₁, children, log₁, hv, htail⟩ := ends_run_bind.mp h
    obtain ⟨s₂, rest, log₂, hrest, hpure⟩ := ends_run_bind.mp htail
    obtain ⟨-, heq⟩ := ends_run_pure.mp hpure
    cases heq
    obtain ⟨v, hmade, rfl, rfl, rfl⟩ := ends_visit hv
    obtain ⟨visits, hall, rfl, rfl, rfl⟩ := ih hrest
    exact ⟨v :: visits, by simpa using ⟨hmade, hall⟩, rfl, by simp, rfl⟩

theorem flatMap_entries_visits (all : List Visit) : all.flatMap visits.entries = all := by
  have hentry (v : Visit) : visits.entries v = [v] := by
    unfold entries
    cases v.emission <;> rfl
  rw [funext hentry, List.flatMap_singleton']

end Recorder

/-- A whole cascade: what goes into the queue comes out of it in the same order, to be routed or to
be dropped in the end. -/
theorem ends_descend_visits {depth levels : Nat} {level : List Emission} {r r' : Report}
    (h : Task.Ends others ((e.descend (fun _ => .visits) depth levels level r).run log s) s'
      (r', log')) :
    ∃ (visits : List Visit) (dropped : List Emission),
      (∀ v ∈ visits, v.Made e) ∧ log' = log ++ visits ∧
      level ++ visits.flatMap (·.children) = visits.map (·.emission) ++ dropped ∧
      r'.dispatched = r.dispatched + visits.length ∧ r'.dropped = r.dropped + dropped.length := by
  induction levels generalizing depth level r log s with
  | zero =>
    obtain ⟨-, heq⟩ := ends_run_pure.mp h
    cases heq
    exact ⟨[], level, by simp, (List.append_nil _).symm, by simp, rfl, rfl⟩
  | succ levels ih =>
    obtain ⟨s₁, next, log₁, hlevel, hrest⟩ := ends_run_bind.mp h
    obtain ⟨visits, hall, rfl, rfl, rfl⟩ := Recorder.ends_visitAll hlevel
    obtain ⟨visits', dropped, hall', rfl, hqueue, hd, hp⟩ := ih hrest
    rw [Recorder.flatMap_entries_visits]
    refine ⟨visits ++ visits', dropped, ?_, List.append_assoc .., ?_, ?_, hp⟩
    · intro v hv
      exact (List.mem_append.mp hv).elim (hall v) (hall' v)
    · rw [List.flatMap_append, List.map_append, List.append_assoc, hqueue]
    · rw [hd, List.length_append, List.length_map, Nat.add_assoc]

/-- What the record of a cascade says about failures in it. -/
structure Accounted (e : Engine) (root : Emission) (report : Report) (visits : List Visit) :
    Prop where
  /-- The root and all that handlers gave out is routed or dropped, in the order given. -/
  queue : ∃ dropped, root :: visits.flatMap (·.children) = visits.map (·.emission) ++ dropped ∧
    report.dispatched = visits.length ∧ report.dropped = dropped.length
  /-- Every handler of what is routed is run, whatever becomes of the others. -/
  handlers : ∀ v ∈ visits, v.handlings.map (·.featureSet) = e.handlers v.emission ∧
    ∀ h ∈ v.handlings, h.trigger = .ofEmission v.emission
  /-- The outbox of a run holds what its steps emitted, also if it failed. -/
  emitted : ∀ v ∈ visits, ∀ h ∈ v.handlings, ∃ deadline s steps w',
    h.featureSet.Runs anything .builtins
      ⟨{ scope := e.scopeFor h.featureSet h.trigger, deadline }, s⟩ steps
      h.run.result w' ∧ Emitted anything steps h.run.outbox
  /-- A failed run gives out one event more, as the last of its emissions. -/
  reported : ∀ v ∈ visits, ∀ h ∈ v.handlings, h.reportable = true → ∃ cause event,
    h.run.result = .error cause ∧ Reports h.featureSet h.trigger cause event ∧
      h.notice = [.event event] ∧
      h.emissions = h.run.outbox.map (·.causedBy h.trigger.id) ++ [.event event]
  /-- Other runs, those that failed for the report of a failure too, give out their own emissions
  only. -/
  silent : ∀ v ∈ visits, ∀ h ∈ v.handlings, h.reportable = false →
    h.notice = [] ∧ h.emissions = h.run.outbox.map (·.causedBy h.trigger.id)
  count : ((visits.flatMap (·.handlings)).flatMap (·.notice)).length =
    (visits.flatMap (·.handlings)).countP (·.reportable)

theorem Handled.emitted (he : e.registry = .builtins) {deadline : Option Nat} {h : Handling}
    (hh : Handled anything e deadline s h s') : ∃ steps w',
      h.featureSet.Runs anything .builtins
        ⟨{ scope := e.scopeFor h.featureSet h.trigger, deadline }, s⟩ steps
        h.run.result w' ∧ Emitted anything steps h.run.outbox := by
  obtain ⟨w', hyields, hout, -⟩ := hh.ran
  rw [he] at hyields
  obtain ⟨steps, r, hruns, hr⟩ := FeatureSet.yields_iff_runs.mp hyields
  obtain ⟨emitted, hem, houtbox⟩ := hruns.emitted
  rw [List.nil_append, ← hout] at houtbox
  exact ⟨steps, w', ⟨r, hruns, hr⟩, houtbox ▸ hem⟩

theorem Noticed.event_of_reportable {h : Handling}
    (hn : Noticed h.featureSet h.trigger h.run.result h.notice) (hr : h.reportable = true) :
    ∃ cause event, h.run.result = .error cause ∧ Reports h.featureSet h.trigger cause event ∧
      h.notice = [.event event] := by
  obtain ⟨f, t, ⟨result, scope, outbox⟩, notice⟩ := h
  cases hn with
  | success => cases hr
  | silent ht => simp [Handling.reportable, ht] at hr
  | reported _ he => exact ⟨_, _, rfl, he, rfl⟩

theorem count_notices {handlings : List Handling}
    (h : ∀ h ∈ handlings, Noticed h.featureSet h.trigger h.run.result h.notice) :
    (handlings.flatMap (·.notice)).length = handlings.countP (·.reportable) := by
  induction handlings with
  | nil => rfl
  | cons first handlings ih =>
    obtain ⟨hfirst, hrest⟩ := List.forall_mem_cons.mp h
    rw [List.flatMap_cons, List.length_append, hfirst.length, ih hrest, List.countP_cons,
      Nat.add_comm]

/-- Across a cascade each run that fails is reported by one event, the last it gives out, unless the
report of a failure started it. Neither its other emissions nor the other handlers are lost. -/
theorem failures_are_reported_once (others : Services → Services → Prop) {e : Engine}
    (he : e.registry = .builtins) (root : Emission) :
    e.notify root = Prod.fst <$> e.observe root ∧
    ∀ s s' report visits, Task.Ends others (e.observe root s) s' (report, visits) →
      Accounted e root report visits := by
  refine ⟨e.notify_eq_recount _ root, ?_⟩
  intro s s' report visits h
  obtain ⟨visits', dropped, hmade, hlog, hqueue, hd, hp⟩ := ends_descend_visits h
  rw [List.nil_append] at hlog
  subst hlog
  have hnoticed : ∀ v ∈ visits, ∀ h ∈ v.handlings,
      Noticed h.featureSet h.trigger h.run.result h.notice := by
    intro v hv h hh
    obtain ⟨_, _, _, hhandled⟩ := (hmade v hv).handled h hh
    exact hhandled.noticed
  refine ⟨⟨dropped, hqueue, by simpa using hd, by simpa using hp⟩, ?_, ?_, ?_, ?_, ?_⟩
  · intro v hv
    exact ⟨(hmade v hv).handlers, (hmade v hv).trigger⟩
  · intro v hv h hh
    obtain ⟨deadline, s, s', hhandled⟩ := (hmade v hv).handled h hh
    exact ⟨deadline, s, hhandled.emitted he⟩
  · intro v hv h hh hr
    obtain ⟨cause, event, hresult, hreports, hnotice⟩ := (hnoticed v hv h hh).event_of_reportable hr
    exact ⟨cause, event, hresult, hreports, hnotice, by rw [Handling.emissions, hnotice]⟩
  · intro v hv h hh hr
    have hlength := (hnoticed v hv h hh).length
    rw [hr] at hlength
    have hnotice : h.notice = [] := List.length_eq_zero_iff.mp hlength
    exact ⟨hnotice, by rw [Handling.emissions, hnotice, List.append_nil]⟩
  · apply count_notices
    intro h hh
    obtain ⟨v, hv, hmem⟩ := List.mem_flatMap.mp hh
    exact hnoticed v hv h hmem

/-- Of two handlers the first throws. Its report is beyond the limit and dropped, and the second one
runs. -/
theorem dropped_report_is_accounted :
    let others : Services → Services → Prop := fun _ _ => False
    let fail : Command := ⟨"Throw", ⟨"Failed", none, .whole⟩, ⟨.for_, .literal .null, none⟩, none⟩
    let f : FeatureSet := ⟨"first", "", [.act fail]⟩
    let g : FeatureSet := ⟨"second", "", []⟩
    let e : Engine := { name := "app", featureSets := [f, g], limits := ⟨none, 0⟩,
                        subscriptions := [⟨"Started", [], "first"⟩, ⟨"Started", [], "second"⟩] }
    let event : Event := ⟨⟨7⟩, "Started", .null, ⟨0, 0⟩, none⟩
    e.registry = .builtins ∧ ∃ s' v,
      Task.Ends others (e.observe (.event event) {}) s' (⟨1, 1⟩, [v]) ∧
      v.handlings.map (·.reportable) = [true, false] ∧ Accounted e (.event event) ⟨1, 1⟩ [v] := by
  intro others fail f g e event
  have he : e.registry = .builtins := by simp only [e]
  have hthrow : Registry.builtins.get? "Throw" = some Action.throw_ :=
    Registry.get?_builtins.mpr ⟨by simp [Registry.builtinActions], by decide +kernel⟩
  let t : Trigger := .event event
  let w : World Invocation := ⟨{ scope := e.scopeFor f t }, ({} : Services).record event⟩
  let cause : ExecutionError := .action "Throw" "Failed" (.thrown "Failed" .null)
  have hnext : (Code.statement (.act fail)).next Registry.builtins w =
      (w, .act Action.throw_ fail) := by
    have hready : w.ready Registry.builtins fail = .ok (some Action.throw_) :=
      World.ready_some_iff.mpr ⟨rfl, hthrow, rfl⟩
    rw [Code.next, hready]
  have hfail : Runs others Registry.builtins (.statement (.act fail)) w
      [.acted fail Action.throw_ (.error (.thrown "Failed" .null))] (.error cause) w :=
    .act (o := .error (.thrown "Failed" .null)) hnext .done
  have hfirst : Yields others (f.exec e.registry) w (.error cause) w := by
    rw [he]
    exact FeatureSet.yields_iff_runs.mpr ⟨_, _, .firstEnded rfl hfail (by simp), rfl⟩
  obtain ⟨s₁, failed, hf, hfailed, hone⟩ : ∃ s₁ h, e.handling f t none w.shared = .done s₁ h ∧
      h.reportable = true ∧ h.emissions.length = 1 :=
    ⟨_, _, (ends_handling_of_yields hfirst .done).eq_done, rfl, rfl⟩
  have hsecond : Yields others (g.exec e.registry) ⟨{ scope := e.scopeFor g t }, s₁⟩ (.ok none)
      ⟨{ scope := e.scopeFor g t }, s₁⟩ := .done
  obtain ⟨s₂, passed, hg, hpassed, hnone⟩ : ∃ s₂ h, e.handling g t none s₁ = .done s₂ h ∧
      h.reportable = false ∧ h.emissions.length = 0 :=
    ⟨_, _, (ends_handling_of_yields hsecond .done).eq_done, rfl, rfl⟩
  have hall : Task.Ends others (e.handleAll (.event event) w.shared) s₂ [failed, passed] := by
    have hhandlers : e.handlers (.event event) = [f, g] := rfl
    have hgather : Process.gather [e.handling f t none, e.handling g t none] w.shared =
        .done s₂ [failed, passed] := by
      simp only [Process.gather, hf, Task.both, hg]
      rfl
    rw [handleAll_eq, hhandlers]
    exact hgather ▸ .done
  let v : Visit := ⟨.event event, [failed, passed]⟩
  have hroute : Task.Ends others ((Recorder.visits.route e (.event event)).run [] w.shared) s₂
      (v.children, [v]) :=
    ends_run_bind.mpr ⟨s₂, [failed, passed], [], ends_run_lift.mpr ⟨hall, rfl⟩, .done⟩
  have hend : Task.Ends others (e.observe (.event event) {}) s₂ (⟨1, 1⟩, [v]) := by
    have hlimit : e.limits.cascade = 0 := rfl
    rw [observe, recount, hlimit]
    refine ends_run_bind.mpr ⟨s₂, v.children.map (·.causedBy event.id) ++ [], [v], ?_, ?_⟩
    · refine ends_run_bind.mpr ⟨s₂, v.children.map (·.causedBy event.id), [v], ?_, ?_⟩
      · exact ends_run_bind.mpr ⟨w.shared, (), [], .done,
          ends_run_bind.mpr ⟨s₂, v.children, [v], hroute, .done⟩⟩
      · exact .done
    · refine ends_run_pure.mpr ⟨rfl, ?_⟩
      simp [v, Visit.children, hone, hnone]
  exact ⟨he, s₂, v, hend, by simp [v, hfailed, hpassed],
    (failures_are_reported_once others he _).2 _ _ _ _ hend⟩

end Engine

end FeatureFlow
