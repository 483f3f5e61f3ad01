import FeatureFlow.Proofs.Runs

/-! Runs point by point. A point says what a run is at: a piece of code, an action that has been
started, or its end. Between two waits the points follow from one another, and each keeps what is
left of the run. -/
namespace FeatureFlow

variable {α : Type} {registry : Registry}

/-- A task that is left of the first one after some of its waits, whatever they ended with. -/
inductive Task.Leads : Task α → Task α → Prop where
  | refl {t : Task α} : Leads t t
  | woken {s s' : Services} {d : Option Nat} {resume : Wake → Services → Task α} {wake : Wake}
      {t : Task α} (h : Leads (resume wake s') t) : Leads (.waiting s d resume) t

theorem Task.Leads.trans {t t' t'' : Task α} (h : Leads t t') (h' : Leads t' t'') :
    Leads t t'' := by
  induction h with
  | refl => exact h'
  | woken _ ih => exact .woken (ih h')

/-- What waits for a piece of code to end: the scope around it, if it has one of its own, and what
comes after it. -/
structure Frame where
  home : Option Scope
  rest : Code

def Frame.leave (frame : Frame) (w : World Invocation) : World Invocation :=
  w.within (frame.home.getD w.own.scope)

inductive Point where
  | before (code : Code) (stack : List Frame) (w : World Invocation)
  /-- An action was started in a world, and this is left of it. -/
  | acting (c : Command) (a : Action) (since : World Invocation) (stack : List Frame)
    (left : Task (Except ActionError Outcome × List Emission))
  | ended (r : Except ExecutionError Flow) (w : World Invocation)

namespace Point

/-- After a piece of code has ended. -/
def back (r : Except ExecutionError Flow) (w : World Invocation) : List Frame → Point
  | [] => .ended r w
  | frame :: stack => match r with
    | .ok .proceed => .before frame.rest stack (frame.leave w)
    | r => back r (frame.leave w) stack

/-- The point that follows without a wait. -/
def advance (registry : Registry) : Point → Point
  | .before code stack w => match code.next registry w with
    | (w₁, .stop e) => back (.error e) w₁ stack
    | (w₁, .finish) => back (.ok .proceed) w₁ stack
    | (w₁, .act a c) => .acting c a w₁ stack (w₁.action a c)
    | (w₁, .become code') => .before code' stack w₁
    | (w₁, .first code' rest) => .before code' (⟨none, rest⟩ :: stack) w₁
    | (w₁, .inside name prepare body rest) =>
      .before (.block body) (⟨w₁.own.scope.snapshot.2, rest⟩ :: stack)
        ((w₁.enter name).adjust prepare)
  | .acting c a since stack (.done s (o, outbox)) =>
    let (r, w) := World.settled ⟨{ since.own with outbox }, s⟩ a.role c o
    back r w stack
  | p => p

/-- The point after a wait. -/
def woken (wake : Wake) (s : Services) : Point → Point
  | .acting c a since stack (.waiting _ _ resume) => .acting c a since stack (resume wake s)
  | p => p

/-- Nothing follows but after a wait, if at all. -/
def Rests : Point → Prop
  | .before .. => False
  | .acting _ _ _ _ (.done _ _) => False
  | .acting _ _ _ _ (.waiting _ _ _) => True
  | .ended .. => True

/-- Some number of advances lead from one point to the other. -/
inductive Advances (registry : Registry) : Point → Point → Prop where
  | refl {p : Point} : Advances registry p p
  | step {p q : Point} (h : Advances registry (p.advance registry) q) : Advances registry p q

/-- The points of a run, whatever happens while it waits. -/
inductive Reaches (registry : Registry) : Point → Point → Prop where
  | refl {p : Point} : Reaches registry p p
  | advance {p q : Point} (h : Reaches registry p q) : Reaches registry p (q.advance registry)
  | woken {p q : Point} {wake : Wake} {s : Services} (h : Reaches registry p q) :
      Reaches registry p (q.woken wake s)

/-- What the frames do once the code before them has ended. -/
def unwind (registry : Registry) :
    List Frame → Except ExecutionError Flow × Invocation → Services →
      Task (Except ExecutionError Flow × Invocation)
  | [], p, s => .done s p
  | frame :: stack, (r, own), s => match r with
    | .ok .proceed =>
      ((frame.rest.exec registry).start (frame.leave ⟨own, s⟩)).bind (unwind registry stack)
    | r => unwind registry stack (r, (frame.leave ⟨own, s⟩).own) s

def task (registry : Registry) : Point → Task (Except ExecutionError Flow × Invocation)
  | .before code stack w => ((code.exec registry).start w).bind (unwind registry stack)
  | .acting c a since stack left => (left.bind (since.settling a c)).bind (unwind registry stack)
  | .ended r w => w.ended r

section Tasks

variable {stack : List Frame} {w : World Invocation} {r : Except ExecutionError Flow}

theorem task_back : (back r w stack).task registry = unwind registry stack (r, w.own) w.shared := by
  induction stack generalizing w with
  | nil => rfl
  | cons frame stack ih =>
    match r with
    | .ok .proceed => rfl
    | .ok (.respond a) => exact ih
    | .error e => exact ih

/-- A frame does what the second of two parts does, and leaves the child scope before if there is
one. -/
theorem unwind_same {rest : Code} : unwind registry (⟨none, rest⟩ :: stack) =
    fun p s => (Exec.onward (rest.exec registry) p s).bind (unwind registry stack) := by
  funext p s
  obtain ⟨_ | _ | a, own⟩ := p <;> rfl

theorem unwind_child {rest : Code} : unwind registry (⟨w.own.scope.snapshot.2, rest⟩ :: stack) =
    fun p s => (w.leaving p s).bind fun p s => (Exec.onward (rest.exec registry) p s).bind
      (unwind registry stack) := by
  funext p s
  obtain ⟨_ | _ | a, own⟩ := p <;> rfl

/-- Advancing changes nothing about what is left to do. -/
theorem task_advance (p : Point) : (p.advance registry).task registry = p.task registry := by
  match p with
  | .before code stack w =>
    rw [advance, task, Code.start_next]
    obtain ⟨w₁, move⟩ := code.next registry w
    cases move with
    | stop e => exact task_back
    | finish => exact task_back
    | act a c => exact congrArg (Task.bind · _) Exec.start_act.symm
    | become code' => rfl
    | first code' rest =>
      change ((code'.exec registry).start w₁).bind _ = ((Exec.andThen _ _).start w₁).bind _
      rw [Exec.start_andThen, Task.bind_assoc, unwind_same]
    | inside name prepare body rest =>
      change ((Exec.runBlock registry body).start _).bind _ = ((Exec.andThen _ _).start w₁).bind _
      rw [Exec.start_andThen, Exec.start_inChild, Task.bind_assoc, Task.bind_assoc, unwind_child]
      rfl
  | .acting c a since stack (.done s (o, outbox)) => exact task_back
  | .acting c a since stack (.waiting s d resume) => rfl
  | .ended r w => rfl

theorem task_woken {p : Point} {wake : Wake} {s : Services} :
    (p.task registry).Leads ((p.woken wake s).task registry) := by
  match p with
  | .acting c a since stack (.waiting _ _ resume) => exact .woken .refl
  | .acting c a since stack (.done _ _) => exact .refl
  | .before code stack w => exact .refl
  | .ended r w => exact .refl

end Tasks

theorem Advances.trans {p q q' : Point} (h : Advances registry p q) (h' : Advances registry q q') :
    Advances registry p q' := by
  induction h with
  | refl => exact h'
  | step _ ih => exact .step (ih h')

theorem Advances.task_eq {p q : Point} (h : Advances registry p q) :
    q.task registry = p.task registry := by
  induction h with
  | refl => rfl
  | step _ ih => exact ih.trans (task_advance _)

theorem Reaches.advances {p q q' : Point} (h : Reaches registry p q) (h' : Advances registry q q') :
    Reaches registry p q' := by
  induction h' with
  | refl => exact h
  | step _ ih => exact ih h.advance

/-- The run comes to a wait, or back to what waits for the code it is at. -/
def Returns (registry : Registry) (stack : List Frame) (p : Point) : Prop :=
  ∃ q, Advances registry p q ∧ (q.Rests ∨ ∃ r w, q = back r w stack)

section Returns

variable {stack : List Frame} {w : World Invocation} {p : Point}

theorem returns_back {r : Except ExecutionError Flow} : Returns registry stack (back r w stack) :=
  ⟨_, .refl, .inr ⟨r, w, rfl⟩⟩

theorem Returns.of_advance (h : Returns registry stack (p.advance registry)) :
    Returns registry stack p := by
  obtain ⟨q, hq, hrests⟩ := h
  exact ⟨q, .step hq, hrests⟩

theorem Returns.of_frame {frame : Frame} (h : Returns registry (frame :: stack) p)
    (hrest : ∀ w, Returns registry stack (.before frame.rest stack w)) :
    Returns registry stack p := by
  obtain ⟨q, hq, hrests | ⟨r, w, rfl⟩⟩ := h
  · exact ⟨q, hq, .inl hrests⟩
  · have hback : Returns registry stack (back r w (frame :: stack)) := by
      match r with
      | .ok .proceed => exact hrest _
      | .ok (.respond a) => exact returns_back
      | .error e => exact returns_back
    obtain ⟨q', hq', hrests'⟩ := hback
    exact ⟨q', hq.trans hq', hrests'⟩

theorem returns_acting {c : Command} {a : Action} {since : World Invocation}
    {left : Task (Except ActionError Outcome × List Emission)} :
    Returns registry stack (.acting c a since stack left) := by
  match left with
  | .done s (o, outbox) => exact .of_advance returns_back
  | .waiting s d resume => exact ⟨_, .refl, .inl trivial⟩

/-- The proof is by induction on the rank: every piece that a move leaves is smaller. -/
theorem returns_before (code : Code) (stack : List Frame) (w : World Invocation) :
    Returns registry stack (.before code stack w) := by
  obtain ⟨⟨w₁, move⟩, hn⟩ : ∃ p, code.next registry w = p := ⟨_, rfl⟩
  have hrank {part : Code} (hp : part ∈ move.parts) :
      Prod.Lex (· < ·) (· < ·) part.rank code.rank := by
    apply Code.rank_part (w := w)
    rwa [hn]
  apply Returns.of_advance
  rw [advance, hn]
  cases move with
  | stop e => exact returns_back
  | finish => exact returns_back
  | act a c => exact returns_acting
  | become code' => exact returns_before code' stack w₁
  | first code' rest =>
    have hfirst := returns_before code' (⟨none, rest⟩ :: stack) w₁
    exact hfirst.of_frame (returns_before rest stack)
  | inside name prepare body rest =>
    have hbody := returns_before (.block body) (⟨w₁.own.scope.snapshot.2, rest⟩ :: stack)
      ((w₁.enter name).adjust prepare)
    exact hbody.of_frame (returns_before rest stack)
termination_by code.rank
decreasing_by all_goals exact hrank (by simp [Move.parts])

theorem Returns.exists_rests (h : Returns registry stack p) :
    ∃ q, Advances registry p q ∧ q.Rests := by
  induction stack generalizing p with
  | nil =>
    obtain ⟨q, hq, hrests | ⟨r, w, rfl⟩⟩ := h
    · exact ⟨q, hq, hrests⟩
    · exact ⟨_, hq, trivial⟩
  | cons frame stack ih => exact ih (h.of_frame (returns_before frame.rest stack))

/-- A run does not go on for ever without a wait. -/
theorem exists_rests (registry : Registry) (p : Point) : ∃ q, Advances registry p q ∧ q.Rests := by
  match p with
  | .before code stack w => exact (returns_before code stack w).exists_rests
  | .acting c a since stack left => exact returns_acting.exists_rests
  | .ended r w => exact ⟨_, .refl, trivial⟩

end Returns

/-- A run that waits does so at a point from which it is woken. -/
theorem Rests.task_woken_eq {p : Point} {s s' : Services} {d : Option Nat} {wake : Wake}
    {resume : Wake → Services → Task (Except ExecutionError Flow × Invocation)} (hrests : p.Rests)
    (h : p.task registry = .waiting s d resume) :
    (p.woken wake s').task registry = resume wake s' := by
  match p with
  | .acting c a since stack (.waiting _ _ resume') =>
    cases h
    rfl
  | .acting c a since stack (.done _ _) => exact hrests.elim
  | .before code stack w => exact hrests.elim
  | .ended r w => cases h

theorem Reaches.trans {p q q' : Point} (h : Reaches registry p q) (h' : Reaches registry q q') :
    Reaches registry p q' := by
  induction h' with
  | refl => exact h
  | advance _ ih => exact .advance ih
  | woken _ ih => exact .woken ih

/-- What can be left of a run are the tasks of the points at which it rests. -/
theorem leads_iff_reaches {p : Point} {t : Task (Except ExecutionError Flow × Invocation)} :
    (p.task registry).Leads t ↔ ∃ q, Reaches registry p q ∧ q.Rests ∧ q.task registry = t := by
  constructor
  · intro h
    generalize hp : p.task registry = t₀ at h
    induction h generalizing p with
    | refl =>
      obtain ⟨q, hq, hrests⟩ := exists_rests registry p
      exact ⟨q, Reaches.refl.advances hq, hrests, hq.task_eq.trans hp⟩
    | woken _ ih =>
      obtain ⟨q, hq, hrests⟩ := exists_rests registry p
      obtain ⟨q', hq', hq'rests, ht⟩ := ih (hrests.task_woken_eq (hq.task_eq.trans hp))
      exact ⟨q', (Reaches.refl.advances hq).woken.trans hq', hq'rests, ht⟩
  · rintro ⟨q, hq, -, rfl⟩
    induction hq with
    | refl => exact .refl
    | advance _ ih => rwa [task_advance]
    | woken _ ih => exact ih.trans task_woken

end Point

end FeatureFlow
