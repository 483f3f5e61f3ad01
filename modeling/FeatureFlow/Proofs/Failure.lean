import FeatureFlow.Proofs.Ends
import FeatureFlow.Proofs.Registry

/-! A command that fails has changed nothing. Every built-in action makes its checks before its
first change, and what it changes cannot fail. -/
namespace FeatureFlow

variable {α β ε σ : Type} {others : Services → Services → Prop}

/-- The computation changes nothing, whether it fails or not. -/
def Reads (others : Services → Services → Prop) (x : ExceptT ε (StateT σ Process) α) : Prop :=
  ∀ w r w', Yields others x w r w' → w' = w

/-- The computation does not fail. -/
def Succeeds (others : Services → Services → Prop) (x : ExceptT ε (StateT σ Process) α) : Prop :=
  ∀ w e w', ¬ Yields others x w (.error e) w'

/-- The computation changes nothing if it fails. -/
def FailsClean (others : Services → Services → Prop) (x : ExceptT ε (StateT σ Process) α) : Prop :=
  ∀ w e w', Yields others x w (.error e) w' → w' = w

section Rules

variable {x : ExceptT ε (StateT σ Process) β} {f : β → ExceptT ε (StateT σ Process) α}

theorem Reads.failsClean {x : ExceptT ε (StateT σ Process) α} (h : Reads others x) :
    FailsClean others x :=
  fun w e w' hx => h w (.error e) w' hx

theorem Succeeds.failsClean {x : ExceptT ε (StateT σ Process) α} (h : Succeeds others x) :
    FailsClean others x := fun w e w' hx => (h w e w' hx).elim

theorem reads_pure {a : α} : Reads others (pure a : ExceptT ε (StateT σ Process) α) :=
  fun _ _ _ h => (yields_pure.mp h).2

theorem reads_throw {e : ε} : Reads others (throw e : ExceptT ε (StateT σ Process) α) :=
  fun _ _ _ h => (yields_throw.mp h).2

theorem succeeds_pure {a : α} : Succeeds others (pure a : ExceptT ε (StateT σ Process) α) := by
  intro w e w' h
  cases (yields_pure.mp h).1

theorem Reads.bind (hx : Reads others x) (hf : ∀ b, Reads others (f b)) :
    Reads others (x >>= f) := by
  intro w r w' h
  rcases yields_bind.mp h with ⟨b, w₁, hb, ha⟩ | ⟨e, he, -⟩
  · exact (hf b _ _ _ ha).trans (hx _ _ _ hb)
  · exact hx _ _ _ he

theorem Succeeds.bind (hx : Succeeds others x) (hf : ∀ b, Succeeds others (f b)) :
    Succeeds others (x >>= f) := by
  intro w e w' h
  rcases yields_bind.mp h with ⟨b, w₁, hb, ha⟩ | ⟨e', he, -⟩
  · exact hf b _ _ _ ha
  · exact hx _ _ _ he

/-- Checks may go before what fails clean, since they change nothing themselves. -/
theorem Reads.bind_failsClean (hx : Reads others x) (hf : ∀ b, FailsClean others (f b)) :
    FailsClean others (x >>= f) := by
  intro w e w' h
  rcases yields_bind.mp h with ⟨b, w₁, hb, ha⟩ | ⟨e', he, -⟩
  · exact (hf b _ _ _ ha).trans (hx _ _ _ hb)
  · exact hx _ _ _ he

end Rules

namespace ActionM

theorem reads_ofExcept {δ : Type} {wrap : δ → ActionError} {x : Except δ α} :
    Reads others (ofExcept wrap x) := fun _ _ _ h => (yields_ofExcept.mp h).2

theorem reads_services : Reads others services := fun _ _ _ h => (yields_services.mp h).2

theorem reads_resolve {scope : Scope} {name : String} : Reads others (resolve scope name) :=
  fun _ _ _ h => (yields_resolve.mp h).2

theorem reads_eval {scope : Scope} {e : Expression} : Reads others (eval scope e) :=
  fun _ _ _ h => (yields_eval.mp h).2

theorem reads_filter {scope : Scope} {filter : Option Expression} :
    Reads others (filter.mapM (eval scope)) := by
  cases filter with
  | none => exact reads_pure
  | some e => exact reads_eval.bind fun _ => reads_pure

theorem succeeds_services : Succeeds others services :=
  fun _ _ _ h => by cases (yields_services.mp h).1

theorem succeeds_modifyServices {f : Services → Services} : Succeeds others (modifyServices f) :=
  fun _ _ _ h => by cases (yields_modifyServices.mp h).1

theorem succeeds_emit {e : Emission} : Succeeds others (emit e) :=
  fun _ _ _ h => by cases (yields_emit.mp h).1

theorem succeeds_freshId : Succeeds others freshId :=
  fun _ _ _ h => by cases (yields_freshId.mp h).1

end ActionM

namespace Action

variable {scope : Scope} {deadline : Option Nat} {target : Target} {object : Object}

open ActionM

theorem ofValue_reads {role : Role} {verbs : List String} {prepositions : List Preposition}
    {f : Target → Value → Except ActionError Outcome} :
    Reads others ((ofValue role verbs prepositions f).run scope deadline target object) :=
  reads_eval.bind fun _ => reads_ofExcept

theorem update_reads : Reads others (update.run scope deadline target object) := by
  refine reads_resolve.bind fun _ => reads_ofExcept.bind fun fields => reads_eval.bind fun v => ?_
  cases v with
  | map patch => exact reads_pure
  | _ => exact reads_throw

theorem retrieve_reads : Reads others (retrieve.run scope deadline target object) :=
  reads_ofExcept.bind fun _ => reads_filter.bind fun _ => reads_services.bind fun _ =>
    reads_ofExcept.bind fun _ => reads_pure

theorem accept_failsClean : FailsClean others (accept.run scope deadline target object) := by
  refine reads_ofExcept.bind_failsClean fun t => reads_ofExcept.bind_failsClean
    fun (name, path, field) => ?_
  refine reads_resolve.bind_failsClean fun v => reads_ofExcept.bind_failsClean fun entity => ?_
  exact (succeeds_freshId.bind fun _ => succeeds_emit.bind fun _ => succeeds_pure).failsClean

theorem store_failsClean : FailsClean others (store.run scope deadline target object) := by
  refine reads_ofExcept.bind_failsClean fun repository => reads_resolve.bind_failsClean fun v => ?_
  intro w e w' h
  replace h := (yields_bind_ok yields_services).mp h
  replace h := (yields_bind_ok yields_modifyServices).mp h
  cases hstore : (w.shared.store repository (v.getD .null)).1 with
  | error cause =>
    rw [hstore, Services.store_of_error hstore] at h
    exact ((yields_bind_error yields_ofExcept).mp h).2
  | ok receipt =>
    rw [hstore] at h
    replace h := (yields_bind_ok yields_ofExcept).mp h
    exact ((succeeds_freshId.bind fun _ => succeeds_emit.bind fun _ => succeeds_pure) _ _ _ h).elim

theorem log_failsClean : FailsClean others (log.run scope deadline target object) :=
  reads_eval.bind_failsClean fun _ => (succeeds_modifyServices.bind fun _ =>
    succeeds_pure).failsClean

theorem emit_failsClean : FailsClean others (Action.emit.run scope deadline target object) :=
  reads_eval.bind_failsClean fun _ => (succeeds_services.bind fun _ =>
    succeeds_modifyServices.bind fun _ =>
    succeeds_emit.bind fun _ => succeeds_pure).failsClean

theorem publish_failsClean : FailsClean others (publish.run scope deadline target object) :=
  reads_eval.bind_failsClean fun _ => (succeeds_modifyServices.bind fun _ =>
    succeeds_pure).failsClean

theorem start_succeeds : Succeeds others (start.run scope deadline target object) :=
  succeeds_services.bind fun _ => succeeds_modifyServices.bind fun _ => succeeds_pure

theorem stop_succeeds : Succeeds others (stop.run scope deadline target object) :=
  succeeds_services.bind fun _ => succeeds_modifyServices.bind fun _ => succeeds_pure

/-- Where the deadline comes before shutdown, the shared state is as the others have left it. -/
theorem keepalive_error {w w' : World (List Emission)} {e : ActionError}
    (h : Yields others (keepalive.run scope deadline target object) w (.error e) w') :
    w'.own = w.own ∧ others w.shared w'.shared := by
  rcases yields_bind.mp h with ⟨wake, w₁, hp, hr⟩ | ⟨e', hp, -⟩
  · obtain ⟨s, _, hs, hw, rfl⟩ := yields_process.mp hp
    cases hw
    cases wake with
    | signal => cases (yields_pure.mp hr).1
    | deadline =>
      obtain ⟨-, rfl⟩ := yields_throw.mp hr
      rcases Process.ends_pause.mp hs with ⟨-, -, hw⟩ | ⟨-, ho⟩
      · cases hw
      · exact ⟨rfl, ho⟩
  · obtain ⟨_, _, -, hw, -⟩ := yields_process.mp hp
    cases hw

/-- No built-in action fails after a change of its own. -/
theorem builtin_error {a : Action} (ha : a ∈ Registry.builtinActions) {w w' : World (List Emission)}
    {e : ActionError} (h : Yields others (a.run scope deadline target object) w (.error e) w') :
    w'.own = w.own ∧ (w'.shared = w.shared ∨ others w.shared w'.shared) := by
  by_cases hk : a = keepalive
  · subst hk
    obtain ⟨ho, hs⟩ := keepalive_error h
    exact ⟨ho, .inr hs⟩
  · have hc : FailsClean others (a.run scope deadline target object) := by
      simp only [Registry.builtinActions, List.mem_cons, List.not_mem_nil, or_false, hk] at ha
      rcases ha with rfl | rfl | rfl | rfl | rfl | rfl | rfl | rfl |
        rfl | rfl | rfl | rfl | rfl | rfl
      · exact ofValue_reads.failsClean
      · exact retrieve_reads.failsClean
      · exact ofValue_reads.failsClean
      · exact ofValue_reads.failsClean
      · exact update_reads.failsClean
      · exact accept_failsClean
      · exact ofValue_reads.failsClean
      · exact ofValue_reads.failsClean
      · exact log_failsClean
      · exact emit_failsClean
      · exact publish_failsClean
      · exact store_failsClean
      · exact start_succeeds.failsClean
      · exact stop_succeeds.failsClean
    obtain rfl := hc w e w' h
    exact ⟨rfl, .inl rfl⟩

end Action

/-- Symbols, repositories, servers and log are the same. -/
def Services.SameContents (s s' : Services) : Prop :=
  s'.symbols = s.symbols ∧ s'.repositories = s.repositories ∧ s'.servers = s.servers ∧
    s'.log = s.log

/-- A command that fails leaves scope, outbox and shared state as they were. If it failed while it
waited, the shared state is as the others left it meanwhile. -/
theorem failed_command_changes_nothing {c : Command} {w w' : World Invocation} {e : ExecutionError}
    (h : Yields others (Exec.runCommand Registry.builtins c) w (.error e) w') :
    w'.own.scope = w.own.scope ∧ w'.own.outbox = w.own.outbox ∧
      (w'.shared = w.shared ∨ others w.shared w'.shared) ∧
      ((∀ s s', others s s' → s.SameContents s') → w.shared.SameContents w'.shared) := by
  obtain ⟨hown, hshared⟩ : w'.own = w.own ∧ (w'.shared = w.shared ∨ others w.shared w'.shared) := by
    rcases Exec.yields_runCommand.mp h with ⟨_, -, -, rfl⟩ | ⟨-, hr, -⟩ | ⟨a, ha, hact⟩
    · exact ⟨rfl, .inl rfl⟩
    · cases hr
    · obtain ⟨o, outbox, s, hrun, hset⟩ := Exec.yields_act.mp hact
      cases o with
      | ok o => cases hset
      | error cause =>
        cases hset
        have hb := (Registry.get?_builtins.mp (World.ready_some_iff.mp ha).2.1).1
        obtain ⟨ho, hs⟩ := Action.builtin_error hb hrun
        subst ho
        exact ⟨rfl, hs⟩
  refine ⟨by rw [hown], by rw [hown], hshared, ?_⟩
  intro hq
  rcases hshared with hs | ho
  · rw [hs]
    exact ⟨rfl, rfl, rfl, rfl⟩
  · exact hq _ _ ho

/-- A wait that the deadline ends, while only the clock goes on. -/
theorem failed_wait_changes_nothing :
    let others : Services → Services → Prop := fun s s' => s' = { s with clock := 5 }
    let c : Command := ⟨"Keepalive", ⟨"app", none, .whole⟩, ⟨.for_, .literal .null, none⟩, none⟩
    let w : World Invocation := ⟨{ scope := { name := "job" }, deadline := some 5 }, {}⟩
    let w' : World Invocation := ⟨w.own, { clock := 5 }⟩
    Yields others (Exec.runCommand Registry.builtins c) w
        (.error (.action "Keepalive" "app" (.deadline "job"))) w' ∧
      w'.own.scope = w.own.scope ∧ w'.own.outbox = w.own.outbox ∧
        w.shared.SameContents w'.shared := by
  intro others c w w'
  have ha : Registry.builtins.get? "Keepalive" = some Action.keepalive :=
    Registry.get?_builtins.mpr ⟨by simp [Registry.builtinActions], by decide +kernel⟩
  have hready : w.ready Registry.builtins c = .ok (some Action.keepalive) :=
    World.ready_some_iff.mpr ⟨rfl, ha, rfl⟩
  have hrun : Yields others (Action.keepalive.run w.own.scope w.own.deadline c.result c.object)
      ⟨[], w.shared⟩ (.error (.deadline "job")) ⟨[], w'.shared⟩ :=
    @Task.Ends.woken _ _ _ _ _ _ _ .deadline _ rfl .done
  have h := Exec.yields_runCommand.mpr
    (.inr (.inr ⟨_, hready, Exec.yields_act.mpr ⟨_, [], w'.shared, hrun, rfl⟩⟩))
  obtain ⟨hs, ho, -, hq⟩ := failed_command_changes_nothing h
  refine ⟨h, hs, ho, hq ?_⟩
  rintro s _ rfl
  exact ⟨rfl, rfl, rfl, rfl⟩

end FeatureFlow
