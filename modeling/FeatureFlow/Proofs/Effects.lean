import FeatureFlow.Proofs.Failure
import FeatureFlow.Proofs.Runs

/-! What the built-in actions do. Each of them changes one thing at most besides the outbox, and to
the outbox it only adds. -/
namespace FeatureFlow

variable {α β ε σ : Type} {others : Services → Services → Prop}

theorem Reads.bind_ok {x : ExceptT ε (StateT σ Process) β} {f : β → ExceptT ε (StateT σ Process) α}
    {w w' : World σ} {a : α} (hx : Reads others x) (h : Yields others (x >>= f) w (.ok a) w') :
    ∃ b, Yields others x w (.ok b) w ∧ Yields others (f b) w (.ok a) w' := by
  rcases yields_bind.mp h with ⟨b, w₁, hb, ha⟩ | ⟨e, -, he⟩
  · obtain rfl := hx _ _ _ hb
    exact ⟨b, hb, ha⟩
  · cases he

theorem ActionM.ofExcept_ok {δ : Type} {wrap : δ → ActionError} {x : Except δ α} {a : α}
    {w w' : World (List Emission)} (h : Yields others (ofExcept wrap x) w (.ok a) w') :
    x = .ok a := by
  cases x with
  | ok b =>
    cases (yields_pure.mp h).1
    rfl
  | error e => cases (yields_throw.mp h).1

namespace Action

/-- The actions that change nothing, neither outbox nor shared state, unless others do while they
wait. -/
def readers : List Action :=
  [extract, retrieve, create, validate, update, return_, throw_, keepalive]

/-- What an action for a target and an object can do, between two worlds and with this result. -/
inductive Effect (others : Services → Services → Prop) (a : Action) (target : Target)
    (object : Object) (w : World (List Emission)) :
    Except ActionError Outcome → World (List Emission) → Prop where
  | failed {e : ActionError} : Effect others a target object w (.error e) w
  | read {o : Outcome} (ha : a ∈ readers) : Effect others a target object w (.ok o) w
  | waited {o : Except ActionError Outcome} {s : Services} (ha : a = keepalive)
      (hs : others w.shared s) :
      Effect others a target object w o ⟨w.own, s⟩
  | logged {line : LogLine} (ha : a = log) :
      Effect others a target object w (.ok .proceed) ⟨w.own, w.shared.write line⟩
  | emitted {v : Value} (ha : a = emit) :
      Effect others a target object w (.ok .proceed)
        ⟨w.own ++ [.event (w.shared.newEvent target.name v).1], w.shared.issue⟩
  | published {v : Value} (ha : a = publish) :
      Effect others a target object w (.ok (.bind v)) ⟨w.own, w.shared.publish target.name v⟩
  | accepted {name field : String} {t : Transition} {entity : Value} (ha : a = accept) :
      Effect others a target object w (.ok (.assign name entity))
        ⟨w.own ++ [.state ⟨w.shared.fresh, field, t, entity⟩], w.shared.issue⟩
  | stored {repository : String} {v : Value} {receipt : Receipt} {s : Services} (ha : a = store)
      (hname : object.name? = some repository)
        (hs : w.shared.store repository v = (.ok receipt, s)) :
      Effect others a target object w (.ok (.bind receipt.stored))
        ⟨w.own ++
          [.change ⟨s.fresh, repository, receipt.kind, receipt.entityId, some receipt.stored,
          receipt.previous⟩], s.issue⟩
  | started {b : Bool} (ha : a = start) :
      Effect others a target object w (.ok (.bind (.bool b)))
        ⟨w.own, (w.shared.startServer target.name).2⟩
  | stopped {b : Bool} (ha : a = stop) :
      Effect others a target object w (.ok (.bind (.bool b)))
        ⟨w.own, (w.shared.stopServer target.name).2⟩

variable {a : Action} {scope : Scope} {deadline : Option Nat} {target : Target} {object : Object}
  {w w' : World (List Emission)} {r : Except ActionError Outcome} {o : Outcome}

open ActionM

theorem effect_of_reads (ha : a ∈ readers) (hr : Reads others (a.run scope deadline target object))
    (h : Yields others (a.run scope deadline target object) w r w') :
    Effect others a target object w r w' := by
  obtain rfl := hr _ _ _ h
  cases r with
  | error e => exact .failed
  | ok o => exact .read ha

theorem effect_of_failsClean (hc : FailsClean others (a.run scope deadline target object))
    (hok : ∀ o, Yields others (a.run scope deadline target object) w (.ok o) w' →
      Effect others a target object w (.ok o) w')
    (h : Yields others (a.run scope deadline target object) w r w') :
    Effect others a target object w r w' := by
  cases r with
  | error e =>
    obtain rfl := hc _ _ _ h
    exact .failed
  | ok o => exact hok o h

theorem log_effect (h : Yields others (log.run scope deadline target object) w (.ok o) w') :
    Effect others log target object w (.ok o) w' := by
  obtain ⟨v, -, h⟩ := reads_eval.bind_ok h
  rw [yields_bind_ok yields_modifyServices, yields_pure] at h
  obtain ⟨ho, rfl⟩ := h
  cases ho
  exact .logged rfl

theorem emit_effect (h : Yields others (Action.emit.run scope deadline target object) w
    (.ok o) w') :
    Effect others Action.emit target object w (.ok o) w' := by
  obtain ⟨v, -, h⟩ := reads_eval.bind_ok h
  rw [yields_bind_ok yields_services] at h
  simp only [yields_bind_ok yields_modifyServices, yields_bind_ok yields_emit, yields_pure] at h
  obtain ⟨ho, rfl⟩ := h
  cases ho
  exact .emitted rfl

theorem publish_effect (h : Yields others (publish.run scope deadline target object) w (.ok o) w') :
    Effect others publish target object w (.ok o) w' := by
  obtain ⟨v, -, h⟩ := reads_eval.bind_ok h
  rw [yields_bind_ok yields_modifyServices, yields_pure] at h
  obtain ⟨ho, rfl⟩ := h
  cases ho
  exact .published rfl

theorem accept_effect (h : Yields others (accept.run scope deadline target object) w (.ok o) w') :
    Effect others accept target object w (.ok o) w' := by
  obtain ⟨t, -, h⟩ := reads_ofExcept.bind_ok h
  obtain ⟨⟨name, path, field⟩, -, h⟩ := reads_ofExcept.bind_ok h
  obtain ⟨found, -, h⟩ := reads_resolve.bind_ok h
  obtain ⟨entity, -, h⟩ := reads_ofExcept.bind_ok h
  rw [yields_bind_ok yields_freshId, yields_bind_ok yields_emit, yields_pure] at h
  obtain ⟨ho, rfl⟩ := h
  cases ho
  exact .accepted rfl

theorem repositoryOf_ok {action repository : String}
    (h : repositoryOf action object = .ok repository) :
    object.name? = some repository := by
  unfold repositoryOf at h
  split at h
  · cases h
    assumption
  · cases h

theorem store_effect (h : Yields others (store.run scope deadline target object) w (.ok o) w') :
    Effect others store target object w (.ok o) w' := by
  obtain ⟨repository, hr, h⟩ := reads_ofExcept.bind_ok h
  obtain ⟨found, -, h⟩ := reads_resolve.bind_ok h
  replace h := (yields_bind_ok yields_services).mp h
  replace h := (yields_bind_ok yields_modifyServices).mp h
  obtain ⟨receipt, hstore, h⟩ := reads_ofExcept.bind_ok h
  simp only [yields_bind_ok yields_freshId, yields_bind_ok yields_emit, yields_pure] at h
  obtain ⟨ho, rfl⟩ := h
  cases ho
  exact .stored rfl (repositoryOf_ok (ofExcept_ok hr)) (Prod.ext (ofExcept_ok hstore) rfl)

theorem start_effect (h : Yields others (start.run scope deadline target object) w (.ok o) w') :
    Effect others start target object w (.ok o) w' := by
  simp only [start, yields_bind_ok yields_services, yields_bind_ok yields_modifyServices,
    yields_pure] at h
  obtain ⟨ho, rfl⟩ := h
  cases ho
  exact .started rfl

theorem stop_effect (h : Yields others (stop.run scope deadline target object) w (.ok o) w') :
    Effect others stop target object w (.ok o) w' := by
  simp only [stop, yields_bind_ok yields_services, yields_bind_ok yields_modifyServices,
    yields_pure] at h
  obtain ⟨ho, rfl⟩ := h
  cases ho
  exact .stopped rfl

theorem keepalive_effect (h : Yields others (keepalive.run scope deadline target object) w r w') :
    Effect others keepalive target object w r w' := by
  rcases yields_bind.mp h with ⟨wake, w₁, hp, hr⟩ | ⟨e, hp, -⟩
  · obtain ⟨s, _, hs, hw, rfl⟩ := yields_process.mp hp
    cases hw
    have hend : w' = ⟨w.own, s⟩ := by
      cases wake with
      | signal => exact (yields_pure.mp hr).2
      | deadline => exact (yields_throw.mp hr).2
    subst hend
    rcases Process.ends_pause.mp hs with ⟨-, rfl, rfl⟩ | ⟨-, ho⟩
    · obtain ⟨rfl, -⟩ := yields_pure.mp hr
      exact .read (by simp [readers])
    · exact .waited rfl ho
  · obtain ⟨_, _, -, hw, -⟩ := yields_process.mp hp
    cases hw

/-- All that a built-in action can do. -/
theorem builtin_effect (ha : a ∈ Registry.builtinActions)
    (h : Yields others (a.run scope deadline target object) w r w') :
    Effect others a target object w r w' := by
  simp only [Registry.builtinActions, List.mem_cons, List.not_mem_nil, or_false] at ha
  rcases ha with rfl | rfl | rfl | rfl | rfl | rfl | rfl | rfl |
    rfl | rfl | rfl | rfl | rfl | rfl | rfl
  · exact effect_of_reads (by simp [readers]) ofValue_reads h
  · exact effect_of_reads (by simp [readers]) retrieve_reads h
  · exact effect_of_reads (by simp [readers]) ofValue_reads h
  · exact effect_of_reads (by simp [readers]) ofValue_reads h
  · exact effect_of_reads (by simp [readers]) update_reads h
  · exact effect_of_failsClean accept_failsClean (fun _ => accept_effect) h
  · exact effect_of_reads (by simp [readers]) ofValue_reads h
  · exact effect_of_reads (by simp [readers]) ofValue_reads h
  · exact effect_of_failsClean log_failsClean (fun _ => log_effect) h
  · exact effect_of_failsClean emit_failsClean (fun _ => emit_effect) h
  · exact effect_of_failsClean publish_failsClean (fun _ => publish_effect) h
  · exact effect_of_failsClean store_failsClean (fun _ => store_effect) h
  · exact effect_of_failsClean start_succeeds.failsClean (fun _ => start_effect) h
  · exact effect_of_failsClean stop_succeeds.failsClean (fun _ => stop_effect) h
  · exact keepalive_effect h

end Action

/-- What statements do apart from their actions: time passes, and a value may not get its shape. -/
inductive Services.Aged : Services → Services → Prop where
  | kept {s : Services} : Aged s s
  | elapsed {s : Services} : Aged s s.elapse
  | crashed {s : Services} (now : Bool) : Aged s (s.crash now)

/-- Nothing else is different. -/
def World.Aged (w w' : World (List Emission)) : Prop := w'.own = w.own ∧ w.shared.Aged w'.shared

/-- The outbox of a run and the shared state. -/
def World.outside (w : World Invocation) : World (List Emission) := ⟨w.own.outbox, w.shared⟩

section Outside

variable {registry : Registry} {code : Code} {w w' w₁ : World Invocation} {move : Move}

theorem Code.next_outside (h : code.next registry w = (w₁, move)) : w.outside.Aged w₁.outside := by
  revert h
  fun_cases next registry code w <;> rintro ⟨⟩ <;>
    first | exact ⟨rfl, .kept⟩ | exact ⟨rfl, .elapsed⟩

theorem World.settled_outside {role : Role} {c : Command} {o : Except ActionError Outcome} :
    w.outside.Aged (w.settled role c o).2.outside := by
  cases o with
  | ok outcome => exact ⟨rfl, .crashed _⟩
  | error e => exact ⟨rfl, .kept⟩

/-- What holds while time passes, of each step of a run, and of two parts of a run together, holds
of the run. -/
theorem Runs.outside {P : List Step → World (List Emission) → World (List Emission) → Prop}
    (aged : ∀ {w w'}, w.Aged w' → P [] w w')
    (append : ∀ {steps steps' w w₁ w'}, P steps w w₁ → P steps' w₁ w' → P (steps ++ steps') w w')
    (stopped : ∀ e w, P [.stopped e] w w)
    (acted : ∀ {c a scope deadline o w w'}, registry.get? c.action = some a →
      Yields others (a.run scope deadline c.result c.object) w o w' → P [.acted c a o] w w')
    {steps : List Step} {r : Except ExecutionError Flow}
    (h : Runs others registry code w steps r w') :
    P steps w.outside w'.outside := by
  have before {steps : List Step} {w w₁ w'} (ha : w.Aged w₁) (h : P steps w₁ w') : P steps w w' :=
    append (aged ha) h
  have after {steps : List Step} {w w₁ w'} (h : P steps w w₁) (ha : w₁.Aged w') : P steps w w' :=
    List.append_nil steps ▸ append h (aged ha)
  induction h with
  | stop hn => exact before (Code.next_outside hn) (stopped _ _)
  | finish hn => exact aged (Code.next_outside hn)
  | act hn ha =>
    obtain ⟨-, rfl, hready⟩ := Code.next_act hn
    exact after (acted (World.ready_some_iff.mp hready).2.1 ha) World.settled_outside
  | become hn _ ih => exact before (Code.next_outside hn) ih
  | firstEnded hn _ _ ih => exact before (Code.next_outside hn) ih
  | first hn _ _ ih ihrest => exact before (Code.next_outside hn) (append ih ihrest)
  | insideEnded hn _ _ ih => exact before (Code.next_outside hn) ih
  | inside hn _ _ ih ihrest => exact before (Code.next_outside hn) (append ih ihrest)

end Outside

/-- The step adds these emissions to the outbox. -/
inductive Step.Emits (others : Services → Services → Prop) : Step → List Emission → Prop where
  | stopped {e : ExecutionError} : Emits others (.stopped e) []
  | acted {c : Command} {a : Action} {o : Except ActionError Outcome} {scope : Scope}
      {deadline : Option Nat} {outbox emitted : List Emission} {s s' : Services}
      (h : Yields others (a.run scope deadline c.result c.object) ⟨outbox, s⟩ o
        ⟨outbox ++ emitted, s'⟩) :
      Emits others (.acted c a o) emitted

/-- The steps together add these emissions, in this order. -/
inductive Emitted (others : Services → Services → Prop) : List Step → List Emission → Prop where
  | nothing : Emitted others [] []
  | step {p : Step} {steps : List Step} {first rest : List Emission} (h : p.Emits others first)
      (hs : Emitted others steps rest) : Emitted others (p :: steps) (first ++ rest)

namespace Emitted

variable {p : Step} {steps steps' : List Step} {emitted emitted' : List Emission}

theorem single (h : p.Emits others emitted) : Emitted others [p] emitted :=
  List.append_nil emitted ▸ .step h .nothing

theorem append (h : Emitted others steps emitted) (h' : Emitted others steps' emitted') :
    Emitted others (steps ++ steps') (emitted ++ emitted') := by
  induction h with
  | nothing => exact h'
  | step hp _ ih =>
    rw [List.append_assoc]
    exact .step hp ih

end Emitted

/-- A built-in action takes nothing out of the outbox. -/
theorem Action.Effect.outbox {a : Action} {target : Target} {object : Object}
    {w w' : World (List Emission)} {o : Except ActionError Outcome}
    (h : a.Effect others target object w o w') :
    ∃ emitted, w'.own = w.own ++ emitted := by
  cases h with
  | emitted | accepted | stored => exact ⟨_, rfl⟩
  | _ => exact ⟨[], (List.append_nil _).symm⟩

/-- With the built-in actions nothing that was emitted is lost, however the run ends. -/
theorem Runs.emitted {code : Code} {w w' : World Invocation} {steps : List Step}
    {r : Except ExecutionError Flow} (h : Runs others Registry.builtins code w steps r w') :
    ∃ emitted, Emitted others steps emitted ∧ w'.own.outbox = w.own.outbox ++ emitted := by
  refine h.outside (P := fun steps w w' => ∃ emitted,
    Emitted others steps emitted ∧ w'.own = w.own ++ emitted)
    ?_ ?_ ?_ ?_
  · intro w w' hw
    exact ⟨[], .nothing, by rw [hw.1, List.append_nil]⟩
  · rintro steps steps' w w₁ w' ⟨emitted, he, hw⟩ ⟨emitted', he', hw'⟩
    exact ⟨emitted ++ emitted', he.append he', by rw [hw', hw, List.append_assoc]⟩
  · intro e w
    exact ⟨[], .single .stopped, (List.append_nil _).symm⟩
  · rintro c a scope deadline o ⟨outbox, s⟩ ⟨outbox', s'⟩ ha hrun
    obtain ⟨emitted, rfl⟩ := (Action.builtin_effect (Registry.get?_builtins.mp ha).1 hrun).outbox
    exact ⟨emitted, .single (.acted hrun), rfl⟩

end FeatureFlow
