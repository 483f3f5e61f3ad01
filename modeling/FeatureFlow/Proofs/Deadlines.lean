import FeatureFlow.Proofs.Points
import FeatureFlow.Proofs.Timing

/-! Runs with a deadline. It is looked at before each statement and each round, and is the same in
every child scope, so that no action is started once it has passed. -/
namespace FeatureFlow

variable {registry : Registry} {d : Nat}

/-- Whether code looks at the deadline before it runs anything. -/
def Code.Checks : Code → Prop
  | .statement _ => False
  | _ => True

/-- What a move leaves for later. -/
def Move.rest? : Move → Option Code
  | .first _ rest => some rest
  | .inside _ _ _ rest => some rest
  | _ => none

section Next

variable {code rest : Code} {w w₁ : World Invocation} {move : Move}

theorem Code.checks_rest (h : code.next registry w = (w₁, move)) (hrest : move.rest? = some rest) :
    rest.Checks := by
  revert h
  fun_cases next registry code w <;> intro h <;> cases h <;> cases hrest <;> trivial

/-- A statement is run right after the deadline was looked at. -/
theorem Code.checks_part {part : Code} (h : code.next registry w = (w₁, move))
    (hp : part ∈ move.parts) :
    part.Checks ∨ w₁.late = false := by
  revert h
  fun_cases next registry code w <;> intro h <;> cases h <;>
    simp only [Move.parts, List.mem_cons, List.not_mem_nil, or_false] at hp <;>
    (try rcases hp with rfl | rfl) <;>
    first | exact .inl trivial | exact .inr (Bool.of_not_eq_true ‹_›)

end Next

namespace Point

/-- What holds of every point of a run with this deadline. Statements are not left for later, so
none of them is begun and no action was started when the deadline had passed. -/
def Timely (d : Nat) : Point → Prop
  | .before code stack w =>
    w.own.deadline = some d ∧ (code.Checks ∨ w.late = false) ∧ ∀ frame ∈ stack, frame.rest.Checks
  | .acting c a since stack left =>
    since.own.deadline = some d ∧ since.late = false ∧ (∀ frame ∈ stack, frame.rest.Checks) ∧
      (since.action a c).Leads left
  | .ended _ _ => True

section Steps

variable {p q : Point} {stack : List Frame} {w : World Invocation}

theorem timely_back {r : Except ExecutionError Flow} (hd : w.own.deadline = some d)
    (hstack : ∀ frame ∈ stack, frame.rest.Checks) : (back r w stack).Timely d := by
  induction stack generalizing w with
  | nil => trivial
  | cons frame stack ih =>
    obtain ⟨hframe, hstack⟩ := List.forall_mem_cons.mp hstack
    match r with
    | .ok .proceed => exact ⟨hd, .inl hframe, hstack⟩
    | .ok (.respond a) => exact ih hd hstack
    | .error e => exact ih hd hstack

theorem Timely.advance (h : p.Timely d) : (p.advance registry).Timely d := by
  match p with
  | .before code stack w =>
    obtain ⟨hd, hcode, hstack⟩ := h
    obtain ⟨⟨w₁, move⟩, hn⟩ : ∃ p, code.next registry w = p := ⟨_, rfl⟩
    have hd₁ : w₁.own.deadline = some d := (Code.next_deadline hn).trans hd
    rw [Point.advance, hn]
    cases move with
    | stop e => exact timely_back hd₁ hstack
    | finish => exact timely_back hd₁ hstack
    | act a c =>
      obtain ⟨rfl, rfl, -⟩ := Code.next_act hn
      exact ⟨hd, hcode.resolve_left id, hstack, .refl⟩
    | become code' => exact ⟨hd₁, Code.checks_part hn (by simp [Move.parts]), hstack⟩
    | first code' rest =>
      have hrest : rest.Checks := Code.checks_rest hn rfl
      exact ⟨hd₁, Code.checks_part hn (by simp [Move.parts]),
        List.forall_mem_cons.mpr ⟨hrest, hstack⟩⟩
    | inside name prepare body rest =>
      have hrest : rest.Checks := Code.checks_rest hn rfl
      exact ⟨hd₁, .inl trivial, List.forall_mem_cons.mpr ⟨hrest, hstack⟩⟩
  | .acting c a since stack (.done s (o, outbox)) =>
    obtain ⟨hd, -, hstack, -⟩ := h
    refine timely_back ?_ hstack
    cases o <;> exact hd
  | .acting c a since stack (.waiting s dl resume) => exact h
  | .ended r w => trivial

theorem Timely.woken {wake : Wake} {s : Services} (h : p.Timely d) : (p.woken wake s).Timely d := by
  match p with
  | .acting c a since stack (.waiting s dl resume) =>
    obtain ⟨hd, hlate, hstack, hleads⟩ := h
    exact ⟨hd, hlate, hstack, hleads.trans (.woken .refl)⟩
  | .acting c a since stack (.done s o) => exact h
  | .before code stack w => exact h
  | .ended r w => trivial

theorem Reaches.timely (h : Reaches registry p q) (hp : p.Timely d) : q.Timely d := by
  induction h with
  | refl => exact hp
  | advance _ ih => exact ih.advance
  | woken _ ih => exact ih.woken

end Steps

section Failed

variable {c : Command} {a : Action} {since : World Invocation} {stack : List Frame} {s : Services}
    {e : ActionError} {outbox : List Emission}

theorem exists_back_error {w : World Invocation} {e : ExecutionError} :
    ∃ w', back (.error e) w stack = .ended (.error e) w' ∧ w'.shared = w.shared ∧
      w'.own.outbox = w.own.outbox := by
  induction stack generalizing w with
  | nil => exact ⟨w, rfl, rfl, rfl⟩
  | cons frame stack ih => exact ih (w := frame.leave w)

/-- An action that has failed is the last one of its run. -/
theorem failed_is_last :
    let p : Point := .acting c a since stack (.done s (.error e, outbox))
    ∃ w', w'.shared = s ∧ w'.own.outbox = outbox ∧
      p.task registry = w'.ended (.error (.action c.action c.result.name e)) ∧
      ∀ q, Reaches registry p q → q = p ∨ q = .ended (.error
        (.action c.action c.result.name e)) w' := by
  intro p
  obtain ⟨w', hback, hshared, houtbox⟩ := @exists_back_error stack ⟨{ since.own with outbox }, s⟩
    (.action c.action c.result.name e)
  have hnext : p.advance registry = .ended (.error (.action c.action c.result.name e)) w' := hback
  refine ⟨w', hshared, houtbox, ?_, ?_⟩
  · rw [← task_advance, hnext]
    rfl
  · intro q hq
    induction hq with
    | refl => exact .inl rfl
    | advance _ ih =>
      rcases ih with rfl | rfl
      · exact .inr hnext
      · exact .inr rfl
    | woken _ ih =>
      rcases ih with rfl | rfl
      · exact .inl rfl
      · exact .inr rfl

end Failed

end Point

/-- How a wait can end. The clock does not go back, a signal is one of shutdown, and a deadline has
been reached. -/
structure Wake.Due (wake : Wake) (s : Services) (deadline : Option Nat) (s' : Services) : Prop where
  clock : s.clock ≤ s'.clock
  signal : wake = .signal → s'.shuttingDown = true
  deadline : wake = .deadline → ∃ d, deadline = some d ∧ d ≤ s'.clock

section Keepalive

variable {w : World Invocation} {c : Command}

theorem World.late_iff (hd : w.own.deadline = some d) : w.late = true ↔ d ≤ w.shared.clock := by
  simp [late, hd]

theorem World.not_late_iff (hd : w.own.deadline = some d) :
    w.late = false ↔ w.shared.clock < d := by
  simp [late, hd]

theorem World.action_keepalive :
    w.action Action.keepalive c = (Process.pause w.own.deadline w.shared).bind fun wake s =>
      match wake with
      | .signal => .done s (.ok .proceed, w.own.outbox)
      | .deadline => .done s (.error (.deadline w.own.scope.name), w.own.outbox) := by
  refine (Task.bind_assoc (Task.bind (Process.pause w.own.deadline w.shared) _) _ _).trans ?_
  refine (Task.bind_assoc ..).trans (congrArg (Task.bind _) (funext fun wake => funext fun s => ?_))
  cases wake <;> rfl

/-- A keepalive waits once, until its deadline at most, and fails then. -/
theorem World.keepalive_waits {s : Services} {deadline : Option Nat}
    {resume : Wake → Services → Task (Except ActionError Outcome × List Emission)}
    (h : (w.action Action.keepalive c).Leads (.waiting s deadline resume)) :
    s = w.shared ∧ deadline = w.own.deadline ∧
      ∀ s', resume .deadline s' = .done s' (.error (.deadline w.own.scope.name), w.own.outbox) := by
  rw [action_keepalive, Process.pause] at h
  split at h
  · cases h
  · cases h with
    | refl => exact ⟨rfl, rfl, fun _ => rfl⟩
    | @woken _ _ _ _ wake _ h => cases wake <;> cases h

/-- The wait of a keepalive began before the deadline. If that wakes it, nothing comes after it but
the end. -/
theorem Point.Timely.keepalive {since : World Invocation} {stack : List Frame} {s : Services}
    {deadline : Option Nat}
    {resume : Wake → Services → Task (Except ActionError Outcome × List Emission)}
    (h : (Point.acting c Action.keepalive since stack (.waiting s deadline resume)).Timely d) :
    s.clock < d ∧ deadline = some d ∧ ∀ s',
      let p : Point := .acting c Action.keepalive since stack (resume .deadline s')
      let e : ExecutionError := .action c.action c.result.name (.deadline since.own.scope.name)
      ∃ w', w'.shared = s' ∧ w'.own.outbox = since.own.outbox ∧
        p.task registry = w'.ended (.error e) ∧
        ∀ q, Reaches registry p q → q = p ∨ q = .ended (.error e) w' := by
  obtain ⟨hsince, hlate, -, hleads⟩ := h
  obtain ⟨rfl, rfl, hresume⟩ := World.keepalive_waits hleads
  refine ⟨(World.not_late_iff hsince).mp hlate, hsince, fun s' => ?_⟩
  rw [hresume]
  exact failed_is_last

end Keepalive

/-- For every registry and feature set, in a world with a deadline. Every action of the run was
started before the deadline; a run that is late from the start changes nothing; and a keepalive that
still waits when the deadline comes, without shutdown, fails and is the last action of the run. -/
theorem no_action_starts_after_deadline (registry : Registry) (f : FeatureSet)
    (w : World Invocation) (d : Nat) (hd : w.own.deadline = some d) :
    let begun : Point := .before (.block f.statements) [] w
    ((f.exec registry).start w = (begun.task registry).map fun p => (p.1.map Flow.response?, p.2)) ∧
    (∀ t, (begun.task registry).Leads t ↔ ∃ p,
      Point.Reaches registry begun p ∧ p.Rests ∧ p.task registry = t) ∧
    (∀ c a since stack left, Point.Reaches registry begun (.acting c a since stack left) →
      since.shared.clock < d) ∧
    (f.statements ≠ [] → d ≤ w.later.shared.clock →
      (f.exec registry).start w = w.later.ended (.error (.deadline w.own.scope.name))) ∧
    ∀ c since stack s deadline resume,
      let waiting : Point := .acting c Action.keepalive since stack (.waiting s deadline resume)
      let e : ExecutionError := .action c.action c.result.name (.deadline since.own.scope.name)
      Point.Reaches registry begun waiting → deadline = some d ∧
        (∀ wake s', Wake.Due wake s deadline s' → d ≤ s'.clock → s'.shuttingDown = false →
          ∃ w', w'.shared = s' ∧ w'.own.outbox = since.own.outbox ∧
            (waiting.woken wake s').task registry = w'.ended (.error e) ∧
            ∀ q, Point.Reaches registry (waiting.woken wake s') q →
              q = waiting.woken wake s' ∨ q = .ended (.error e) w') ∧
        ∀ limit, d ≤ limit → ∃ w' : World Invocation, w'.shared = { s with clock := d } ∧
          (waiting.task registry).settle limit = (w'.shared, some (.error e, w'.own)) := by
  intro begun
  have hbegun : begun.Timely d := ⟨hd, .inl trivial, nofun⟩
  have htask : begun.task registry = (Exec.runBlock registry f.statements).start w :=
    Task.bind_done _
  refine ⟨?_, fun t => Point.leads_iff_reaches, ?_, ?_, ?_⟩
  · rw [htask, FeatureSet.start_exec]
  · intro c a since stack left hreach
    obtain ⟨hsince, hlate, -⟩ := hreach.timely hbegun
    exact (World.not_late_iff hsince).mp hlate
  · intro hstatements hlate
    obtain ⟨statement, rest, hrest⟩ := List.exists_cons_of_ne_nil hstatements
    have hpassed : w.later.late = true := (World.late_iff (w := w.later) hd).mpr hlate
    rw [FeatureSet.start_exec, hrest, Exec.runBlock, Exec.start_onTime, if_pos hpassed]
    rfl
  · intro c since stack s deadline resume waiting e hreach
    obtain ⟨hclock, rfl, hfails⟩ := @Point.Timely.keepalive registry d _ _ _ _ _ _
      (hreach.timely hbegun)
    refine ⟨rfl, ?_, ?_⟩
    · intro wake s' hdue hpassed hrunning
      cases wake with
      | signal => simp [hdue.signal rfl] at hrunning
      | deadline => exact hfails s'
    · intro limit hlimit
      obtain ⟨w', hshared, -, hended, -⟩ := hfails { s with clock := d }
      have hwaiting : waiting.task registry =
          .waiting s (some d) fun wake s' => (waiting.woken wake s').task registry := rfl
      refine ⟨w', hshared, ?_⟩
      rw [hwaiting, Task.settle, if_pos hlimit, Nat.max_eq_right (Nat.le_of_lt hclock)]
      exact (congrArg (Task.settle limit) hended).trans (by rw [World.ended, Task.settle])

/-- A wait in a case of a choice in the first round of a loop. The run ends with it at the deadline,
and one that is begun at the deadline ends at once. -/
theorem wait_in_loop_ends_run_at_deadline :
    let wait : Command := ⟨"Wait", ⟨"x", none, .whole⟩, ⟨.for_, .literal .null, none⟩, none⟩
    let log : Statement := .act ⟨"Log", ⟨"x", none, .whole⟩, ⟨.with_, .literal .null, none⟩, none⟩
    let choice : Statement := .choose (.literal .null)
      [⟨.literal .null, none, [.act wait, log]⟩] none
    let loop : Statement := .forEach "x" none (.literal (.list [.null, .null])) none [choice, log]
    let f : FeatureSet := ⟨"job", "", [loop, log]⟩
    let w (clock : Nat) : World Invocation :=
      ⟨{ scope := { name := "job" }, deadline := some 5 }, { clock }⟩
    let later : Services := { clock := 7 }
    (f.exec Registry.builtins).start (w 5) = (w 5).ended (.error (.deadline "job")) ∧
      ∃ since stack resume, since.shared.clock < 5 ∧
        Point.Reaches Registry.builtins (.before (.block f.statements) [] (w 4))
          (.acting wait Action.keepalive since stack (.waiting (w 4).shared (some 5) resume)) ∧
        ∃ w' : World Invocation, w'.shared = later ∧ w'.own.outbox = [] ∧
          (Point.acting wait Action.keepalive since stack (resume .deadline later)).task
            Registry.builtins =
            w'.ended (.error (.action "Wait" "x" (.deadline "job[0]/match"))) := by
  intro wait log choice loop f w later
  let round : World Invocation := ((w 4).enter "job[0]").adjust (Exec.bindItem "x" none .null 0)
  let inner : World Invocation := (round.enter "job[0]/match").adjust id
  let second : Code := .items "job" (Exec.bindItem "x" none) none [choice, log] 1 [.null]
  let rounds : List Frame := [⟨(w 4).own.scope.snapshot.2, second⟩, ⟨none, .block [log]⟩]
  let stack : List Frame :=
    [⟨none, .block [log]⟩, ⟨round.own.scope.snapshot.2, .block []⟩, ⟨none, .block [log]⟩] ++ rounds
  have hround : Point.Reaches Registry.builtins (.before (.block f.statements) [] (w 4))
      (.before (.block [choice, log]) rounds round) := .advance (.advance (.advance .refl))
  have hbefore : Point.Reaches Registry.builtins (.before (.block f.statements) [] (w 4))
      (.before (.statement (.act wait)) stack inner) :=
        .advance (.advance (.advance (.advance hround)))
  have hget : Registry.builtins.get? "Wait" = some Action.keepalive :=
    Registry.get?_builtins.mpr ⟨by simp [Registry.builtinActions], by decide +kernel⟩
  have hready : inner.ready Registry.builtins wait = .ok (some Action.keepalive) :=
    World.ready_some_iff.mpr ⟨rfl, hget, rfl⟩
  have hstarts : (Point.before (.statement (.act wait)) stack inner).advance Registry.builtins =
      .acting wait Action.keepalive inner stack (inner.action Action.keepalive wait) := by
    rw [Point.advance, Code.next_command hready]
  have hwaiting := hstarts ▸ hbefore.advance
  rw [World.action_keepalive] at hwaiting
  obtain ⟨-, -, -, hlate, -⟩ := no_action_starts_after_deadline Registry.builtins f (w 5) 5 rfl
  obtain ⟨-, -, hstarted, -, hends⟩ := no_action_starts_after_deadline Registry.builtins f
    (w 4) 5 rfl
  have hdue : Wake.Due .deadline (w 4).shared (some 5) later :=
    ⟨by decide, by simp, fun _ => ⟨5, rfl, by decide⟩⟩
  obtain ⟨w', hshared, houtbox, htask, -⟩ := (hends _ _ _ _ _ _ hwaiting).2.1 .deadline later hdue
    (by decide) rfl
  exact ⟨hlate (by simp [f]) (by decide), inner, stack, _, hstarted _ _ _ _ _ hwaiting, hwaiting,
    w', hshared, houtbox,
    htask⟩

end FeatureFlow
