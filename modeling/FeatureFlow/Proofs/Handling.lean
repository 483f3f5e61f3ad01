import FeatureFlow.Engine.Run
import FeatureFlow.Proofs.Effects
import FeatureFlow.Proofs.Response

/-! Runs of handlers. A handler ends in one of the ways its feature set can end, whatever runs
beside it, and what it gives out is all that its statements emitted and then the notice of its
failure, if there is one. -/
namespace FeatureFlow

variable {α β : Type} {others : Services → Services → Prop}

/-- Others may do anything. -/
def anything : Services → Services → Prop := fun _ _ => True

/-- Time passes, and others do nothing. -/
def passing : Services → Services → Prop := fun s s' => s' = { s with clock := s'.clock }

namespace Task

theorem Ends.anything {t : Task α} {s : Services} {a : α} (h : Ends others t s a) :
    Ends anything t s a := by
  induction h with
  | done => exact .done
  | woken _ _ ih => exact .woken trivial ih

/-- A task ends once it is woken often enough. -/
theorem exists_ends (t : Task α) : ∃ s a, Ends FeatureFlow.anything t s a := by
  induction t with
  | done s a => exact ⟨s, a, .done⟩
  | waiting s d resume ih =>
    obtain ⟨s', a, h⟩ := ih .signal s
    exact ⟨s', a, .woken trivial h⟩

/-- A task that settles ends while time passes, with what it is seen to end with. -/
theorem exists_passing_of_settle {t : Task α} {limit : Nat} {look : Services → α → β} {b : β}
    (h : (t.settle limit).2.map (look (t.settle limit).1) = some b) :
    ∃ s a, Ends passing t s a ∧ look s a = b := by
  induction t with
  | done s a => exact ⟨s, a, .done, Option.some.inj h⟩
  | waiting s d resume ih =>
    cases d with
    | none => cases h
    | some d =>
      rw [settle] at h
      split at h
      · obtain ⟨s', a, hends, hlook⟩ := ih _ _ h
        have hpassed : passing s { s with clock := max s.clock d } := rfl
        exact ⟨s', a, .woken hpassed hends, hlook⟩
      · cases h

/-- Where others do nothing, only a task that never waits ends. -/
theorem Ends.eq_done {t : Task α} {s : Services} {a : α} (h : Ends (fun _ _ => False) t s a) :
    t = .done s a := by
  cases h with
  | done => rfl
  | woken h => exact h.elim

theorem ends_map {t : Task α} {f : α → β} {s : Services} {b : β} :
    Ends others (t.map f) s b ↔ ∃ a, Ends others t s a ∧ b = f a := by
  rw [map, ends_bind]
  constructor
  · rintro ⟨s', a, ha, hb⟩
    obtain ⟨rfl, rfl⟩ := ends_done.mp hb
    exact ⟨a, ha, rfl⟩
  · rintro ⟨a, ha, rfl⟩
    exact ⟨s, a, ha, .done⟩

/-- Of two tasks side by side, each ends as it can when others run while it waits. -/
theorem ends_both {t : Task α} {p : Services → Task β} {s : Services} {a : α} {b : β}
    (h : Ends others (t.both p) s (a, b)) :
    (∃ s₁, Ends anything t s₁ a) ∧ ∃ s₁ s₂, Ends anything (p s₁) s₂ b := by
  induction t generalizing p with
  | done s₁ a₁ =>
    obtain ⟨b', hb, heq⟩ := ends_map.mp h
    cases heq
    exact ⟨⟨s₁, .done⟩, s₁, s, hb.anything⟩
  | waiting s₁ d resume ih =>
    rw [both] at h
    split at h
    · rename_i s₂ b₂ hp
      cases h with
      | woken _ he =>
        obtain ⟨a', ha, heq⟩ := ends_map.mp he
        cases heq
        exact ⟨⟨s, .woken trivial ha.anything⟩, s₁, s₂, hp ▸ .done⟩
    · rename_i s₂ d₂ resume' hp
      cases h with
      | woken _ he =>
        obtain ⟨⟨s₃, ha⟩, s₄, s₅, hb⟩ := ih _ _ he
        exact ⟨⟨s₃, .woken trivial ha⟩, s₁, s₅, hp ▸ .woken trivial hb⟩

theorem map_map {γ : Type} (t : Task α) (f : α → β) (g : β → γ) : (t.map f).map g = t.map (g ∘ f) :=
  bind_assoc t _ _

/-- Changing the results of both is changing the result of the pair. -/
theorem both_map {γ δ : Type} (t : Task α) (p : Services → Task β) (f : α → γ) (g : β → δ) :
    (t.map f).both (fun s => (p s).map g) = (t.both p).map fun ab => (f ab.1, g ab.2) := by
  induction t generalizing p with
  | done s a =>
    change ((p s).map g).map _ = ((p s).map _).map _
    rw [map_map, map_map]
    rfl
  | waiting s d resume ih =>
    have hmap : (waiting s d resume).map f = waiting s d fun w s => (resume w s).map f := rfl
    rw [hmap, both, both]
    cases p s with
    | done s b =>
      have hpair (w : Wake) (s : Services) : ((resume w s).map f).map (·, g b) =
          ((resume w s).map (·, b)).map fun ab => (f ab.1, g ab.2) := by
        rw [map_map, map_map]
        rfl
      exact congrArg (waiting s d) (funext fun w => funext (hpair w))
    | waiting s' d' resume' =>
      exact congrArg (waiting s' d) (funext fun w => funext fun s => ih w s (resume' w))

/-- Every one of a list of processes that run one after the other gives a result, in their order. -/
theorem ends_mapM {κ : Type} {xs : List α} {p : α → Process β} (key : β → κ) (name : α → κ)
    (P : β → Prop) (hp : ∀ x s s' b, Ends others (p x s) s' b → key b = name x ∧ P b)
    {s s' : Services} {bs : List β} (h : Ends others (xs.mapM p s) s' bs) :
    bs.map key = xs.map name ∧ ∀ b ∈ bs, P b := by
  induction xs generalizing s s' bs with
  | nil =>
    obtain ⟨-, rfl⟩ := ends_done.mp h
    exact ⟨rfl, by simp⟩
  | cons x xs ih =>
    rw [List.mapM_cons] at h
    obtain ⟨s₁, b, hb, htail⟩ := ends_bind.mp h
    obtain ⟨s₂, rest, hrest, hd⟩ := ends_bind.mp htail
    obtain ⟨-, rfl⟩ := ends_done.mp hd
    obtain ⟨hkey, hP⟩ := hp x s s₁ b hb
    obtain ⟨hkeys, hall⟩ := ih hrest
    exact ⟨by rw [List.map_cons, List.map_cons, hkey, hkeys], List.forall_mem_cons.mpr ⟨hP, hall⟩⟩

end Task

namespace Process

theorem gather_map (f : α → β) (ps : List (Process α)) :
    gather (ps.map (f <$> ·)) = List.map f <$> gather ps := by
  induction ps with
  | nil => rfl
  | cons p ps ih =>
    funext s
    have hboth := Task.both_map (p s) (gather ps) f (List.map f)
    have hstep : gather ((p :: ps).map (f <$> ·)) s =
      (((p s).map f).both fun s => (gather ps s).map (List.map f)).map
        fun results => results.1 :: results.2 := by
      rw [List.map_cons, gather, ih]
      rfl
    have hgather : (List.map f <$> gather (p :: ps)) s =
        (((p s).both (gather ps)).map fun results => results.1 :: results.2).map (List.map f) := rfl
    rw [hstep, hboth, hgather, Task.map_map, Task.map_map]
    rfl

/-- Every one of the processes gives a result, in their order. -/
theorem ends_gather {xs : List β} {p : β → Process α} (key : α → β) (P : α → Prop)
    (hp : ∀ x s s' a, Task.Ends anything (p x s) s' a → key a = x ∧ P a) {s s' : Services}
    {as : List α} (h : Task.Ends others (gather (xs.map p) s) s' as) :
    as.map key = xs ∧ ∀ a ∈ as, P a := by
  induction xs generalizing others s s' as with
  | nil =>
    obtain ⟨-, rfl⟩ := Task.ends_done.mp h
    exact ⟨rfl, by simp⟩
  | cons x xs ih =>
    obtain ⟨⟨a, rest⟩, hboth, rfl⟩ := Task.ends_map.mp h
    obtain ⟨⟨s₁, ha⟩, s₂, s₃, hrest⟩ := Task.ends_both hboth
    obtain ⟨hkey, hP⟩ := hp x s s₁ a ha
    obtain ⟨hkeys, hall⟩ := ih hrest
    refine ⟨by rw [List.map_cons, hkey, hkeys], ?_⟩
    simpa using ⟨hP, hall⟩

end Process

theorem FeatureSet.ends_run {registry : Registry} {f : FeatureSet} {scope : Scope}
    {deadline : Option Nat} {s s' : Services} {run : Run}
    (h : Task.Ends others (f.run registry scope deadline s) s' run) :
    ∃ w', Yields others (f.exec registry) ⟨{ scope, deadline }, s⟩ run.result w' ∧
      run.outbox = w'.own.outbox ∧ s' = w'.shared := by
  obtain ⟨s₁, ⟨result, own⟩, hx, hd⟩ := Task.ends_bind.mp h
  obtain ⟨rfl, rfl⟩ := Task.ends_done.mp hd
  exact ⟨⟨own, s'⟩, hx, rfl, rfl⟩

namespace Engine

/-- The event tells of a run that failed, for what it was started and why. -/
structure Reports (f : FeatureSet) (t : Trigger) (cause : ExecutionError) (e : Event) : Prop where
  type : e.type = Event.failureType
  featureSet : e.payload.field? "featureSet" = some (.string f.name)
  triggerKind : e.payload.field? "triggerKind" = some (.string t.kind)
  triggerId : e.payload.field? "triggerId" = some (.string t.id.text)
  eventType : e.payload.field? "eventType" = some ((t.eventType?.map .string).getD .null)
  error : e.payload.field? "error" = some (.string cause.message)
  causedBy : e.causedBy = some t.id

/-- A failed run is reported by one event, unless it was started by such a report. -/
inductive Noticed (f : FeatureSet) (t : Trigger) :
    Except ExecutionError (Option Response) → List Emission → Prop where
  | success {r : Option Response} : Noticed f t (.ok r) []
  | silent {cause : ExecutionError} (h : t.eventType? = some Event.failureType) :
      Noticed f t (.error cause) []
  | reported {cause : ExecutionError} {e : Event} (h : t.eventType? ≠ some Event.failureType)
      (he : Reports f t cause e) : Noticed f t (.error cause) [.event e]

variable {e : Engine} {f : FeatureSet} {t : Trigger} {deadline : Option Nat} {s s' : Services}

theorem field?_report {featureSet message x : String} :
    (Event.wrap (t.failure featureSet message)).field? x =
      if "error" = x then some (.string message)
      else if "eventType" = x then some ((t.eventType?.map .string).getD .null)
      else if "triggerId" = x then some (.string t.id.text)
      else if "triggerKind" = x then some (.string t.kind)
      else if "featureSet" = x then some (.string featureSet) else none := by
  change KeyMap.get? (KeyMap.ofList _) x = _
  simp only [KeyMap.ofList, KeyMap.insertAll, List.foldl_cons, List.foldl_nil, KeyMap.get?_insert,
    KeyMap.get?_nil]

theorem reports_newEvent {cause : ExecutionError} :
    Reports f t cause
      { (s.newEvent Event.failureType (t.failure f.name cause.message)).1 with
        causedBy := some t.id } where
  type := rfl
  featureSet := field?_report
  triggerKind := field?_report
  triggerId := field?_report
  eventType := field?_report
  error := field?_report
  causedBy := rfl

/-- A report takes an id and changes nothing else. -/
theorem ends_failureNotice {result : Except ExecutionError (Option Response)}
    {notice : List Emission} (h : Task.Ends others (failureNotice f t result s) s' notice) :
    Noticed f t result notice ∧ (s' = s ∨ s' = s.issue) := by
  cases result with
  | ok r =>
    obtain ⟨rfl, rfl⟩ := Task.ends_done.mp h
    exact ⟨.success, .inl rfl⟩
  | error cause =>
    rw [failureNotice] at h
    split at h
    · rename_i ht
      obtain ⟨rfl, rfl⟩ := Task.ends_done.mp h
      exact ⟨.silent ht, .inl rfl⟩
    · rename_i ht
      obtain ⟨rfl, rfl⟩ := Task.ends_done.mp h
      exact ⟨.reported ht reports_newEvent, .inr rfl⟩

/-- One run of a feature set for a trigger, and the notice of its failure. -/
structure Handling where
  featureSet : FeatureSet
  trigger : Trigger
  run : Run
  notice : List Emission

namespace Handling

/-- All that is given out to be dispatched. -/
def emissions (h : Handling) : List Emission :=
  h.run.outbox.map (·.causedBy h.trigger.id) ++ h.notice

def handlerRun (h : Handling) : HandlerRun := ⟨h.featureSet.name, h.run.result, h.emissions⟩

/-- The same once all of it has been dispatched. -/
def finished (h : Handling) : HandlerRun := { h.handlerRun with emissions := [] }

end Handling

/-- Runs a feature set for a trigger, and keeps apart what it emitted and what was added. -/
def handling (e : Engine) (f : FeatureSet) (t : Trigger) (deadline : Option Nat) :
    Process Handling := do
  let run ← f.run e.registry (e.scopeFor f t) deadline
  let notice ← failureNotice f t run.result
  return ⟨f, t, run, notice⟩

theorem runHandler_eq (e : Engine) (f : FeatureSet) (t : Trigger) (deadline : Option Nat) :
    e.runHandler f t deadline = Handling.handlerRun <$> e.handling f t deadline := by
  simp only [runHandler, handling, map_bind, map_pure]
  rfl

/-- The handling is one that an engine can make. -/
structure Handled (others : Services → Services → Prop) (e : Engine) (deadline : Option Nat)
    (s : Services) (h : Handling) (s' : Services) : Prop where
  ran : ∃ w', Yields others (h.featureSet.exec e.registry)
      ⟨{ scope := e.scopeFor h.featureSet h.trigger, deadline }, s⟩ h.run.result w' ∧
    h.run.outbox = w'.own.outbox ∧ (s' = w'.shared ∨ s' = w'.shared.issue)
  noticed : Noticed h.featureSet h.trigger h.run.result h.notice

theorem ends_handling {h : Handling} (he : Task.Ends others (e.handling f t deadline s) s' h) :
    h.featureSet = f ∧ h.trigger = t ∧ Handled others e deadline s h s' := by
  obtain ⟨s₁, run, hrun, hrest⟩ := Task.ends_bind.mp he
  obtain ⟨s₂, notice, hnotice, hd⟩ := Task.ends_bind.mp hrest
  obtain ⟨rfl, rfl⟩ := Task.ends_done.mp hd
  obtain ⟨w', hyields, hout, rfl⟩ := FeatureSet.ends_run hrun
  obtain ⟨hn, hs⟩ := ends_failureNotice hnotice
  exact ⟨rfl, rfl, ⟨w', hyields, hout, hs⟩, hn⟩

/-- What a feature set can do, a handler can do with the notice added. -/
theorem ends_handling_of_yields {result : Except ExecutionError (Option Response)}
    {w' : World Invocation} {notice : List Emission}
    (h : Yields others (f.exec e.registry) ⟨{ scope := e.scopeFor f t, deadline }, s⟩ result w')
    (hn : Task.Ends others (failureNotice f t result w'.shared) s' notice) :
    Task.Ends others (e.handling f t deadline s) s'
      ⟨f, t, ⟨result, w'.own.scope, w'.own.outbox⟩, notice⟩ :=
  Task.ends_bind.mpr ⟨w'.shared, ⟨result, w'.own.scope, w'.own.outbox⟩,
    Task.ends_bind.mpr ⟨w'.shared, (result, w'.own), h, .done⟩,
    Task.ends_bind.mpr ⟨s', notice, hn, .done⟩⟩

theorem ends_runHandler {h : Handling} (hh : Task.Ends others (e.handling f t deadline s) s' h) :
    Task.Ends others (e.runHandler f t deadline s) s' h.handlerRun := by
  rw [runHandler_eq]
  exact Task.ends_map.mpr ⟨h, hh, rfl⟩

end Engine

end FeatureFlow
