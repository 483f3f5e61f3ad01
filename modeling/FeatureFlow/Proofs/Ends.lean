import FeatureFlow.Execution.Run

/-! How runs end. While a run waits, others may change the shared state; what they may do is a
parameter, and each lemma here says what one operation does between two points in time. -/
namespace FeatureFlow

variable {α β ε σ : Type} {others : Services → Services → Prop}

/-- A way for a task to end. At each wait the others take the shared state to another one. -/
inductive Task.Ends (others : Services → Services → Prop) : Task α → Services → α → Prop where
  | done {s : Services} {a : α} : Ends others (.done s a) s a
  | woken {s s' t : Services} {d : Option Nat} {resume : Wake → Services → Task α} {w : Wake}
      {a : α} (h : others s s') (he : Ends others (resume w s') t a) :
      Ends others (.waiting s d resume) t a

theorem Task.ends_done {s s' : Services} {a a' : α} :
    Task.Ends others (.done s a) s' a' ↔ s' = s ∧ a' = a := by
  constructor
  · intro h
    cases h
    exact ⟨rfl, rfl⟩
  · rintro ⟨rfl, rfl⟩
    exact .done

theorem Task.ends_bind {t : Task α} {f : α → Services → Task β} {s : Services} {b : β} :
    Task.Ends others (t.bind f) s b ↔
      ∃ s' a, Task.Ends others t s' a ∧ Task.Ends others (f a s') s b := by
  constructor
  · intro h
    induction t with
    | done s' a => exact ⟨s', a, .done, h⟩
    | waiting s' d resume ih =>
      cases h with
      | woken ho he =>
        obtain ⟨s₁, a, ha, hb⟩ := ih _ _ he
        exact ⟨s₁, a, .woken ho ha, hb⟩
  · rintro ⟨s', a, ha, hb⟩
    induction ha with
    | done => exact hb
    | woken ho _ ih => exact .woken ho (ih hb)

theorem Process.ends_pause {deadline : Option Nat} {s s' : Services} {w : Wake} :
    Task.Ends others (Process.pause deadline s) s' w ↔
      (s.shuttingDown = true ∧ s' = s ∧ w = .signal) ∨ (s.shuttingDown = false ∧ others s s') := by
  unfold Process.pause
  split
  · rename_i h
    simp [Task.ends_done, h]
  · rename_i h
    constructor
    · intro he
      cases he with
      | woken ho he =>
        cases he
        exact .inr ⟨by simpa using h, ho⟩
    · rintro (⟨hs, -⟩ | ⟨-, ho⟩)
      · exact absurd hs h
      · exact .woken ho .done

/-- What a run has of its own, and what it shares. -/
structure World (σ : Type) where
  own : σ
  shared : Services

/-- From the first world a computation can end with this result in the second. -/
def Yields (others : Services → Services → Prop) (x : ExceptT ε (StateT σ Process) α)
    (w : World σ) (r : Except ε α) (w' : World σ) : Prop :=
  Task.Ends others (x.run.run w.own w.shared) w'.shared (r, w'.own)

section Operations

variable {w w' : World σ} {r : Except ε α}

theorem ends_in_world {r₀ : Except ε α} {own : σ} {s : Services} :
    Task.Ends others (.done s (r₀, own)) w'.shared (r, w'.own) ↔ r = r₀ ∧ w' = ⟨own, s⟩ := by
  obtain ⟨own', shared'⟩ := w'
  rw [Task.ends_done]
  simp only [Prod.mk.injEq, World.mk.injEq]
  grind

theorem yields_pure {a : α} :
    Yields others (pure a : ExceptT ε (StateT σ Process) α) w r w' ↔ r = .ok a ∧ w' = w :=
  ends_in_world

theorem yields_throw {e : ε} :
    Yields others (throw e : ExceptT ε (StateT σ Process) α) w r w' ↔ r = .error e ∧ w' = w :=
  ends_in_world

/-- A sequence ends with its second part, or with a failure of the first. -/
theorem yields_bind {x : ExceptT ε (StateT σ Process) β} {f : β → ExceptT ε (StateT σ Process) α} :
    Yields others (x >>= f) w r w' ↔
      (∃ b w₁, Yields others x w (.ok b) w₁ ∧ Yields others (f b) w₁ r w') ∨
        ∃ e, Yields others x w (.error e) w' ∧ r = .error e := by
  refine Iff.trans Task.ends_bind ?_
  constructor
  · rintro ⟨s, ⟨e | b, own⟩, hx, hf⟩
    · obtain ⟨rfl, rfl⟩ := ends_in_world.mp hf
      exact .inr ⟨e, hx, rfl⟩
    · exact .inl ⟨b, ⟨own, s⟩, hx, hf⟩
  · rintro (⟨b, w₁, hx, hf⟩ | ⟨e, hx, rfl⟩)
    · exact ⟨w₁.shared, (.ok b, w₁.own), hx, hf⟩
    · exact ⟨w'.shared, (.error e, w'.own), hx, .done⟩

theorem yields_get {r : Except ε σ} :
    Yields others (get : ExceptT ε (StateT σ Process) σ) w r w' ↔ r = .ok w.own ∧ w' = w :=
  ends_in_world

theorem yields_modify {f : σ → σ} {r : Except ε PUnit} :
    Yields others (modify f : ExceptT ε (StateT σ Process) PUnit) w r w' ↔
      r = .ok ⟨⟩ ∧ w' = ⟨f w.own, w.shared⟩ := ends_in_world

theorem yields_process {p : Process α} :
    Yields others (ExceptT.lift (StateT.lift p) : ExceptT ε (StateT σ Process) α) w r w' ↔
      ∃ s a, Task.Ends others (p w.shared) s a ∧ r = .ok a ∧ w' = ⟨w.own, s⟩ := by
  refine Iff.trans Task.ends_bind ?_
  constructor
  · rintro ⟨s, ⟨a, own⟩, hp, he⟩
    obtain ⟨s', a', ha, hd⟩ := Task.ends_bind.mp hp
    obtain ⟨rfl, heq⟩ := Task.ends_done.mp hd
    cases heq
    exact ⟨s, a, ha, ends_in_world.mp he⟩
  · rintro ⟨s, a, ha, rfl, rfl⟩
    exact ⟨s, (a, w.own), Task.ends_bind.mpr ⟨s, a, ha, .done⟩, .done⟩

theorem yields_immediate {p : Process α} {s : Services} {a : α} (h : p w.shared = .done s a) :
    Yields others (ExceptT.lift (StateT.lift p) : ExceptT ε (StateT σ Process) α) w r w' ↔
      r = .ok a ∧ w' = ⟨w.own, s⟩ := by
  rw [yields_process, h]
  constructor
  · rintro ⟨s', a', ha, rfl, rfl⟩
    obtain ⟨rfl, rfl⟩ := Task.ends_done.mp ha
    exact ⟨rfl, rfl⟩
  · rintro ⟨rfl, rfl⟩
    exact ⟨s, a, .done, rfl, rfl⟩

/-- An operation that can only end in one way is done before the rest. -/
theorem yields_bind_ok {x : ExceptT ε (StateT σ Process) β} {f : β → ExceptT ε (StateT σ Process) α}
    {b : β} {w₁ : World σ} (h : ∀ {r w'}, Yields others x w r w' ↔ r = .ok b ∧ w' = w₁) :
    Yields others (x >>= f) w r w' ↔ Yields others (f b) w₁ r w' := by
  rw [yields_bind]
  constructor
  · rintro (⟨b', w₂, hx, hf⟩ | ⟨e, hx, -⟩)
    · obtain ⟨hb, rfl⟩ := h.mp hx
      cases hb
      exact hf
    · cases (h.mp hx).1
  · intro hf
    exact .inl ⟨b, w₁, h.mpr ⟨rfl, rfl⟩, hf⟩

theorem yields_bind_error {x : ExceptT ε (StateT σ Process) β}
    {f : β → ExceptT ε (StateT σ Process) α} {e : ε} {w₁ : World σ}
    (h : ∀ {r w'}, Yields others x w r w' ↔ r = .error e ∧ w' = w₁) :
    Yields others (x >>= f) w r w' ↔ r = .error e ∧ w' = w₁ := by
  rw [yields_bind]
  constructor
  · rintro (⟨b, w₂, hx, -⟩ | ⟨e', hx, rfl⟩)
    · cases (h.mp hx).1
    · obtain ⟨he, rfl⟩ := h.mp hx
      cases he
      exact ⟨rfl, rfl⟩
  · rintro ⟨rfl, rfl⟩
    exact .inr ⟨e, h.mpr ⟨rfl, rfl⟩, rfl⟩

/-- A test goes before the rest, which is left out where it fails. -/
theorem yields_bind_except {δ : Type} {x : ExceptT ε (StateT σ Process) β}
    {f : β → ExceptT ε (StateT σ Process) α} {test : Except δ β} {wrap : δ → ε} :
    (∀ {r w'}, Yields others x w r w' ↔ r = test.mapError wrap ∧ w' = w) →
    (Yields others (x >>= f) w r w' ↔ match test with
      | .ok b => Yields others (f b) w r w'
      | .error d => r = .error (wrap d) ∧ w' = w) := by
  intro h
  cases test with
  | ok b => exact yields_bind_ok h
  | error d => exact yields_bind_error h

end Operations

namespace ActionM

variable {w w' : World (List Emission)}

theorem yields_ofExcept {δ : Type} {wrap : δ → ActionError} {x : Except δ α}
    {r : Except ActionError α} :
    Yields others (ofExcept wrap x) w r w' ↔ r = x.mapError wrap ∧ w' = w := by
  cases x with
  | ok a => exact yields_pure
  | error e => exact yields_throw

theorem yields_services {r : Except ActionError Services} :
    Yields others services w r w' ↔ r = .ok w.shared ∧ w' = w := yields_immediate rfl

theorem yields_modifyServices {f : Services → Services} {r : Except ActionError Unit} :
    Yields others (modifyServices f) w r w' ↔ r = .ok () ∧ w' = ⟨w.own, f w.shared⟩ :=
  yields_immediate rfl

theorem yields_emit {e : Emission} {r : Except ActionError Unit} :
    Yields others (emit e) w r w' ↔ r = .ok () ∧ w' = ⟨w.own ++ [e], w.shared⟩ := yields_modify

theorem yields_resolve {scope : Scope} {name : String} {r : Except ActionError (Option Value)} :
    Yields others (resolve scope name) w r w' ↔
      r = .ok (scope.resolve w.shared.symbols name) ∧ w' = w := by
  rw [resolve, yields_bind_ok yields_services, yields_pure]

theorem yields_eval {scope : Scope} {e : Expression} {r : Except ActionError Value} :
    Yields others (eval scope e) w r w' ↔
      r = (scope.eval w.shared.symbols e).mapError .eval ∧ w' = w := by
  rw [eval, yields_bind_ok yields_services, yields_ofExcept]

theorem yields_freshId {r : Except ActionError Uuid} :
    Yields others freshId w r w' ↔ r = .ok w.shared.fresh ∧ w' = ⟨w.own, w.shared.issue⟩ := by
  rw [freshId, yields_bind_ok yields_services, yields_bind_ok yields_modifyServices, yields_pure]

end ActionM

namespace World

variable (w : World Invocation)

def eval (e : Expression) : Except EvalError Value := w.own.scope.eval w.shared.symbols e

def holds : Option Expression → Except EvalError Bool
  | none => .ok true
  | some e => (w.eval e).map Value.truthy

/-- Whether the deadline has passed. -/
def late : Bool := w.own.deadline.any (· ≤ w.shared.clock)

/-- When the deadline is checked next. -/
def later : World Invocation := ⟨w.own, w.shared.elapse⟩

/-- The same with another scope. -/
def within (scope : Scope) : World Invocation := ⟨{ w.own with scope }, w.shared⟩

/-- Inside a child scope. -/
def enter (name : String) : World Invocation := w.within (w.own.scope.child name).1

/-- After a child scope, in which `w'` was reached. -/
def leave (w' : World Invocation) : World Invocation := w'.within w.own.scope.snapshot.2

/-- The action to run for a command, none if its guard fails. -/
def ready (registry : Registry) (c : Command) : Except ExecutionError (Option Action) :=
  match w.holds c.guard with
  | .error e => .error (.eval e)
  | .ok false => .ok none
  | .ok true => (Exec.actionFor registry c).map some

theorem ready_some_iff {w : World Invocation} {registry : Registry} {c : Command} {a : Action} :
    w.ready registry c = .ok (some a) ↔
      w.holds c.guard = .ok true ∧ registry.get? c.action = some a ∧
        a.accepts c.object.preposition = true := by
  unfold ready Exec.actionFor
  cases w.holds c.guard with
  | error e => simp
  | ok b =>
    cases b with
    | false => simp
    | true =>
      cases registry.get? c.action with
      | none => simp [Except.map]
      | some a' =>
        by_cases ha : a'.accepts c.object.preposition = true
        · simp only [ha, if_true, Except.map, Except.ok.injEq, Option.some.injEq, true_and]
          grind
        · simp only [ha, Except.map]
          grind

/-- How a run goes on when the action of a command has ended. -/
def settled (role : Role) (c : Command) :
    Except ActionError Outcome → Except ExecutionError Flow × World Invocation
  | .error e => (.error (.action c.action c.result.name e), w)
  | .ok o =>
    (.ok (Exec.conclude role c.result w.own.scope o).1,
      ⟨{ w.own with scope := (Exec.conclude role c.result w.own.scope o).2 },
        w.shared.crash (o.isShapeless c.result)⟩)

end World

/-- The task of a run that is over. -/
def World.ended (w : World Invocation) (r : Except ExecutionError α) :
    Task (Except ExecutionError α × Invocation) :=
  .done w.shared (r, w.own)

/-- What is left to do after a computation in a child scope. -/
def World.leaving (w : World Invocation) (p : Except ExecutionError α × Invocation) (s : Services) :
    Task (Except ExecutionError α × Invocation) := (w.leave ⟨p.2, s⟩).ended p.1

/-- The action of a command, started here. -/
def World.action (w : World Invocation) (a : Action) (c : Command) :
    Task (Except ActionError Outcome × List Emission) :=
  (a.run w.own.scope w.own.deadline c.result c.object).run.run w.own.outbox w.shared

/-- What is left to do when that action has ended. -/
def World.settling (w : World Invocation) (a : Action) (c : Command)
    (p : Except ActionError Outcome × List Emission) (s : Services) :
    Task (Except ExecutionError Flow × Invocation) :=
  let (r, w') := World.settled ⟨{ w.own with outbox := p.2 }, s⟩ a.role c p.1
  w'.ended r

namespace Exec

def start (x : Exec α) (w : World Invocation) : Task (Except ExecutionError α × Invocation) :=
  x.run.run w.own w.shared

/-- What follows a computation; it is left out where that has failed. -/
def after (f : β → Exec α) :
    Except ExecutionError β × Invocation → Services → Task (Except ExecutionError α × Invocation)
  | (.ok b, own), s => (f b).start ⟨own, s⟩
  | (.error e, own), s => .done s (.error e, own)

section Start

variable {w w' : World Invocation} {x : Exec β} {f : β → Exec α}

theorem start_bind : (x >>= f).start w = (x.start w).bind (after f) := by
  refine congrArg (x.start w).bind (funext fun p => funext fun s => ?_)
  obtain ⟨r, own⟩ := p
  cases r <;> rfl

theorem start_bind_ok {b : β} (h : x.start w = w'.ended (.ok b)) :
    (x >>= f).start w = (f b).start w' := by
  rw [start_bind, h]
  rfl

theorem start_bind_error {e : ExecutionError} (h : x.start w = w'.ended (.error e)) :
    (x >>= f).start w = w'.ended (.error e) := by
  rw [start_bind, h]
  rfl

theorem start_get_bind {f : Invocation → Exec α} : (get >>= f).start w = (f w.own).start w :=
  start_bind_ok rfl

theorem start_bind_congr {y : Exec β} (h : x.start w = y.start w') :
    (x >>= f).start w = (y >>= f).start w' := by
  rw [start_bind, start_bind, h]

theorem start_ofExcept {δ : Type} {wrap : δ → ExecutionError} {test : Except δ α} :
    (ofExcept wrap test).start w = w.ended (test.mapError wrap) := by
  cases test <;> rfl

/-- A test goes before the rest, which is left out where it fails. -/
theorem start_bind_except {δ : Type} {test : Except δ β} {wrap : δ → ExecutionError} :
    x.start w = w.ended (test.mapError wrap) →
    (x >>= f).start w = match test with
      | .ok b => (f b).start w
      | .error d => w.ended (.error (wrap d)) := by
  intro h
  cases test with
  | ok b => exact start_bind_ok h
  | error d => exact start_bind_error h

theorem start_eval {e : Expression} : (eval e).start w = w.ended ((w.eval e).mapError .eval) :=
  start_ofExcept

theorem start_holds {guard : Option Expression} :
    (holds guard).start w = w.ended ((w.holds guard).mapError .eval) := by
  cases guard with
  | none => rfl
  | some e =>
    rw [holds, start_bind_except start_eval, World.holds]
    cases w.eval e <;> rfl

theorem start_checkDeadline :
    checkDeadline.start w =
      w.later.ended (if w.later.late then .error (.deadline w.own.scope.name) else .ok ()) := by
  have hcheck : checkDeadline.start w =
      if w.later.late then w.later.ended (.error (.deadline w.own.scope.name))
      else w.later.ended (.ok ()) := apply_ite (fun y : Exec Unit => y.start w.later) ..
  rw [hcheck]
  split <;> rfl

/-- What comes next is left out once the deadline has passed. -/
theorem start_onTime {x : Exec α} :
    (checkDeadline >>= fun _ => x).start w =
      if w.later.late then w.later.ended (.error (.deadline w.own.scope.name))
      else x.start w.later := by
  cases h : w.later.late with
  | true => exact start_bind_error (by rw [start_checkDeadline, h]; rfl)
  | false => exact start_bind_ok (by rw [start_checkDeadline, h]; rfl)

theorem start_inChild {name : String} {x : Exec α} :
    (inChild name x).start w = (x.start (w.enter name)).bind w.leaving := rfl

theorem start_ofProcess {p : Process α} :
    (ofProcess p).start w = (p w.shared).bind fun a s => .done s (.ok a, w.own) :=
      Task.bind_assoc ..

theorem start_act {a : Action} {c : Command} :
    (act a c).start w = (w.action a c).bind (w.settling a c) := by
  rw [act, start_bind, perform, start_get_bind, start_bind, start_ofProcess, Task.bind_assoc,
    Task.bind_assoc]
  refine congrArg (w.action a c).bind (funext fun p => funext fun s => ?_)
  obtain ⟨_ | o, outbox⟩ := p <;> rfl

/-- A command is refused, skipped, or has its action run. -/
theorem start_runCommand {registry : Registry} {c : Command} :
    (runCommand registry c).start w = match w.ready registry c with
      | .error e => w.ended (.error e)
      | .ok none => w.ended (.ok .proceed)
      | .ok (some a) => (act a c).start w := by
  rw [runCommand, start_bind_except start_holds, World.ready]
  cases w.holds c.guard with
  | error e => rfl
  | ok b =>
    cases b with
    | false => rfl
    | true =>
      refine (start_bind_except start_ofExcept).trans ?_
      cases actionFor registry c <;> rfl

end Start

variable {w w' : World Invocation}

theorem ends_ended {w₁ : World Invocation} {r₀ r : Except ExecutionError α} :
    Task.Ends others (w₁.ended r₀) w'.shared (r, w'.own) ↔ r = r₀ ∧ w' = w₁ := ends_in_world

theorem yields_of_start {x : Exec α} {w₁ : World Invocation} {r₀ r : Except ExecutionError α}
    (h : x.start w = w₁.ended r₀) : Yields others x w r w' ↔ r = r₀ ∧ w' = w₁ := by
  change Task.Ends others (x.start w) w'.shared (r, w'.own) ↔ _
  rw [h, ends_ended]

theorem yields_ofExcept {δ : Type} {wrap : δ → ExecutionError} {x : Except δ α}
    {r : Except ExecutionError α} :
    Yields others (ofExcept wrap x) w r w' ↔ r = x.mapError wrap ∧ w' = w :=
      yields_of_start start_ofExcept

theorem yields_eval {e : Expression} {r : Except ExecutionError Value} :
    Yields others (eval e) w r w' ↔ r = (w.eval e).mapError .eval ∧ w' = w :=
      yields_of_start start_eval

/-- Something is run in one scope, and another one is there afterwards, whatever has happened. -/
theorem ends_between {x : Exec α} {inner outer : Scope} {r : Except ExecutionError α} :
    Task.Ends others ((x.run.run { w.own with scope := inner } w.shared).bind fun p s =>
        .done s (p.1, { p.2 with scope := outer })) w'.shared (r, w'.own) ↔
      ∃ w₁, Yields others x (w.within inner) r w₁ ∧ w' = w₁.within outer := by
  rw [Task.ends_bind]
  constructor
  · rintro ⟨s, ⟨r', own⟩, hx, hd⟩
    obtain ⟨rfl, rfl⟩ := ends_in_world.mp hd
    exact ⟨⟨own, s⟩, hx, rfl⟩
  · rintro ⟨w₁, hx, rfl⟩
    exact ⟨w₁.shared, (r, w₁.own), hx, .done⟩

theorem yields_inChild {name : String} {x : Exec α} {r : Except ExecutionError α} :
    Yields others (inChild name x) w r w' ↔
      ∃ w₁, Yields others x (w.enter name) r w₁ ∧ w' = w.leave w₁ := ends_between

theorem yields_act {a : Action} {c : Command} {r : Except ExecutionError Flow} :
    Yields others (act a c) w r w' ↔
      ∃ o outbox s, Yields others (a.run w.own.scope w.own.deadline c.result c.object)
          ⟨w.own.outbox, w.shared⟩ o ⟨outbox, s⟩ ∧
        (r, w') = World.settled ⟨{ w.own with outbox }, s⟩ a.role c o := by
  change Task.Ends others ((act a c).start w) w'.shared (r, w'.own) ↔ _
  rw [start_act, Task.ends_bind]
  constructor
  · rintro ⟨s, ⟨o, outbox⟩, ha, hsettled⟩
    obtain ⟨hr, hw⟩ := ends_ended.mp hsettled
    exact ⟨o, outbox, s, ha, Prod.ext hr hw⟩
  · rintro ⟨o, outbox, s, ha, hsettled⟩
    exact ⟨s, (o, outbox), ha, ends_ended.mpr (Prod.mk.inj hsettled)⟩

theorem yields_runCommand {registry : Registry} {c : Command} {r : Except ExecutionError Flow} :
    Yields others (runCommand registry c) w r w' ↔
      (∃ e, w.ready registry c = .error e ∧ r = .error e ∧ w' = w) ∨
      (w.ready registry c = .ok none ∧ r = .ok .proceed ∧ w' = w) ∨
      ∃ a, w.ready registry c = .ok (some a) ∧ Yields others (act a c) w r w' := by
  change Task.Ends others ((runCommand registry c).start w) w'.shared (r, w'.own) ↔ _
  rw [start_runCommand]
  cases w.ready registry c with
  | error e => simp [ends_ended]
  | ok a =>
    cases a with
    | none => simp [ends_ended]
    | some a =>
      constructor
      · intro h
        exact .inr (.inr ⟨a, rfl, h⟩)
      · rintro (⟨e, he, -⟩ | ⟨hn, -⟩ | ⟨a', ha, h⟩)
        · cases he
        · cases hn
        · cases ha
          exact h

theorem yields_runCommand_of_ready {registry : Registry} {c : Command} {a : Action}
    (hready : w.ready registry c = .ok (some a)) {r : Except ExecutionError Flow} :
    Yields others (runCommand registry c) w r w' ↔ Yields others (act a c) w r w' := by
  rw [yields_runCommand, hready]
  simp

/-- Where the end of an action is decided, so is the end of its command. -/
theorem yields_runCommand_of_end {registry : Registry} {c : Command} {a : Action}
    {ended : Except ActionError Outcome × World (List Emission)} {r : Except ExecutionError Flow}
    (hready : w.ready registry c = .ok (some a))
    (hrun : ∀ {o w₁}, Yields others (a.run w.own.scope w.own.deadline c.result c.object)
      ⟨w.own.outbox, w.shared⟩ o w₁ ↔ (o, w₁) = ended) :
    Yields others (runCommand registry c) w r w' ↔
      (r, w') = World.settled ⟨{ w.own with outbox := ended.2.own }, ended.2.shared⟩ a.role c
        ended.1 := by
  rw [yields_runCommand_of_ready hready, yields_act]
  constructor
  · rintro ⟨o, outbox, s, hyields, hsettled⟩
    rw [← hrun.mp hyields]
    exact hsettled
  · exact fun hsettled => ⟨_, _, _, hrun.mpr rfl, hsettled⟩

end Exec

end FeatureFlow
