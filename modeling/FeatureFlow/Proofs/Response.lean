import FeatureFlow.Proofs.Outcomes
import FeatureFlow.Proofs.Runs

/-! A response or a failure is the last step of a run, however deep in loops and choices it happens,
and it is what the run ends with. -/
namespace FeatureFlow

variable {others : Services → Services → Prop} {registry : Registry}

namespace Step

/-- The step raises this error. -/
inductive Fails : Step → ExecutionError → Prop where
  | stopped {e : ExecutionError} : Fails (.stopped e) e
  | action {c : Command} {a : Action} {cause : ActionError} :
      Fails (.acted c a (.error cause)) (.action c.action c.result.name cause)

/-- The step gives this response. Actions that respond do so also with a value or with nothing. -/
inductive Answers : Step → Response → Prop where
  | response {c : Command} {a : Action} {r : Response} : Answers (.acted c a (.ok (.respond r))) r
  | value {c : Command} {a : Action} {v : Value} (h : a.role = .response) :
      Answers (.acted c a (.ok (.bind v))) (.ofLabel c.result.name (c.result.shape v))
  | nothing {c : Command} {a : Action} (h : a.role = .response) :
      Answers (.acted c a (.ok .proceed)) (.ofLabel c.result.name .null)

def Passes (p : Step) : Prop := (∀ e, ¬ p.Fails e) ∧ ∀ r, ¬ p.Answers r

end Step

/-- All steps but the last pass, and the last one decides the result. -/
inductive Concludes : List Step → Except ExecutionError Flow → Prop where
  | empty : Concludes [] (.ok .proceed)
  | failed {p : Step} {e : ExecutionError} (h : p.Fails e) : Concludes [p] (.error e)
  | answered {p : Step} {r : Response} (h : p.Answers r) : Concludes [p] (.ok (.respond r))
  | passed {p : Step} {steps : List Step} {r : Except ExecutionError Flow} (h : p.Passes)
      (hs : Concludes steps r) : Concludes (p :: steps) r

namespace Concludes

variable {steps steps' : List Step} {r : Except ExecutionError Flow}

theorem append (h : Concludes steps (.ok .proceed)) (h' : Concludes steps' r) :
    Concludes (steps ++ steps') r := by
  generalize hr : (Except.ok Flow.proceed : Except ExecutionError Flow) = r₀ at h
  induction h with
  | empty => exact h'
  | failed => cases hr
  | answered => cases hr
  | passed hp _ ih => exact .passed hp (ih hr)

/-- An action that has ended decides the result as it is settled. -/
theorem settled (w : World Invocation) (c : Command) (a : Action) (o : Except ActionError Outcome) :
    Concludes [.acted c a o] (w.settled a.role c o).1 := by
  cases o with
  | error cause => exact .failed .action
  | ok o =>
    have pass (h : ∀ r, ¬ (Step.acted c a (.ok o)).Answers r) :
        Concludes [.acted c a (.ok o)] (.ok .proceed) :=
      .passed ⟨nofun, h⟩ .empty
    cases o with
    | respond r => exact .answered .response
    | assign name v => exact pass nofun
    | bind v =>
      by_cases hrole : a.role = .response
      · simp only [World.settled, Exec.conclude, hrole, if_true]
        exact .answered (.value hrole)
      · simp only [World.settled, Exec.conclude, hrole, if_false]
        exact pass fun _ h => by cases h; contradiction
    | proceed =>
      by_cases hrole : a.role = .response
      · simp only [World.settled, Exec.conclude, hrole, if_true]
        exact .answered (.nothing hrole)
      · simp only [World.settled, Exec.conclude, hrole, if_false]
        exact pass fun _ h => by cases h; contradiction

end Concludes

variable {code : Code} {w w' : World Invocation} {steps : List Step}
    {r : Except ExecutionError Flow}

namespace Step

variable {p : Step}

theorem Fails.unique {e e' : ExecutionError} (h : p.Fails e) (h' : p.Fails e') : e = e' := by
  cases h <;> cases h' <;> rfl

theorem Answers.unique {r r' : Response} (h : p.Answers r) (h' : p.Answers r') : r = r' := by
  cases h <;> cases h' <;> rfl

end Step

def Flow.response? : Flow → Option Response
  | .proceed => none
  | .respond r => some r

/-- From the first world a feature set can run in these steps to this result in the second. -/
def FeatureSet.Runs (others : Services → Services → Prop) (registry : Registry) (f : FeatureSet)
    (w : World Invocation) (steps : List Step) (result : Except ExecutionError (Option Response))
    (w' : World Invocation) : Prop :=
  ∃ r, FeatureFlow.Runs others registry (.block f.statements) w steps r w' ∧
    result = r.map Flow.response?

theorem FeatureSet.start_exec {f : FeatureSet} :
    (f.exec registry).start w =
      ((Exec.runBlock registry f.statements).start w).map fun p =>
        (p.1.map Flow.response?, p.2) := by
  rw [exec, Exec.start_bind]
  refine congrArg (Task.bind _) (funext fun p => funext fun s => ?_)
  obtain ⟨_ | _ | a, own⟩ := p <;> rfl

theorem FeatureSet.yields_iff_runs {f : FeatureSet}
    {result : Except ExecutionError (Option Response)} :
    Yields others (f.exec registry) w result w' ↔ ∃ steps,
      f.Runs others registry w steps result w' := by
  have hblock {r : Except ExecutionError Flow} {w' : World Invocation} :=
    @Code.yields_iff_runs others registry w w' r (.block f.statements)
  change Task.Ends others ((f.exec registry).start w) w'.shared (result, w'.own) ↔ _
  rw [start_exec, Task.map, Task.ends_bind]
  constructor
  · rintro ⟨s, ⟨r, own⟩, hb, hd⟩
    obtain ⟨rfl, rfl⟩ := ends_in_world.mp hd
    obtain ⟨steps, hs⟩ := (@hblock r ⟨own, s⟩).mp hb
    exact ⟨steps, r, hs, rfl⟩
  · rintro ⟨steps, r, hs, rfl⟩
    exact ⟨w'.shared, (r, w'.own), hblock.mpr ⟨steps, hs⟩, .done⟩

end FeatureFlow
