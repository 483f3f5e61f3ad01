import FeatureFlow.Action.Registry

/-! Runs of feature sets: a scope, an outbox and a deadline on top of the shared state. -/
namespace FeatureFlow

inductive ExecutionError where
  | unknownAction (verb : String)
  | unsupportedPreposition (verb : String) (preposition : Preposition)
  | action (verb result : String) (cause : ActionError)
  | eval (cause : EvalError)
  | notIterable (type : String)
  | deadline (scope : String)

namespace ExecutionError

def message : ExecutionError → String
  | unknownAction verb => s!"unknown action '{verb}'"
  | unsupportedPreposition verb preposition =>
    s!"'{verb}' does not accept the preposition '{preposition.text}'"
  | action verb result cause => s!"{verb} <{result}>: {cause.message}"
  | eval cause => cause.message
  | notIterable type => s!"cannot iterate over {type}"
  | deadline scope => deadlineMessage scope

/-- The reason that was thrown, if the run failed so. -/
def reason? : ExecutionError → Option String
  | action _ _ (.thrown reason _) => some reason
  | _ => none

end ExecutionError

structure Invocation where
  scope : Scope
  outbox : List Emission := []
  deadline : Option Nat := none

/-- What was emitted and changed before a failure stays. -/
abbrev Exec := ExceptT ExecutionError (StateT Invocation Process)

/-- How a run goes on after a statement. -/
inductive Flow where
  | proceed
  | respond (r : Response)

namespace Exec

variable {α : Type}

def ofExcept {ε : Type} (wrap : ε → ExecutionError) : Except ε α → Exec α
  | .ok a => pure a
  | .error e => throw (wrap e)

def ofProcess (p : Process α) : Exec α := ExceptT.lift (StateT.lift p)

def services : Exec Services := ofProcess Process.services

def eval (e : Expression) : Exec Value := do
  let symbols := (← services).symbols
  ofExcept .eval ((← get).scope.eval symbols e)

/-- A guard that is not there holds. -/
def holds : Option Expression → Exec Bool
  | none => return true
  | some e => return (← eval e).truthy

/-- Time passes from one check to the next. -/
def checkDeadline : Exec Unit := do
  ofProcess (Process.modify Services.elapse)
  let now := (← services).clock
  let run ← get
  if run.deadline.any (· ≤ now) then throw (.deadline run.scope.name)

def modifyScope (f : Scope → Scope) : Exec Unit :=
  modify fun run => { run with scope := f run.scope }

/-- Runs in a child scope, which is left whatever the outcome. -/
def inChild (name : String) (x : Exec α) : Exec α := ExceptT.mk do
  let (child, scope) := (← get).scope.child name
  modify fun run => { run with scope := child }
  let result ← x.run
  modify fun run => { run with scope }
  return result

/-- Runs an action for a command on the outbox and the shared state. -/
def perform (a : Action) (c : Command) : Exec Outcome := do
  let run ← get
  let (outcome, outbox) ← ofProcess
    ((a.run run.scope run.deadline c.result c.object).run.run run.outbox)
  set { run with outbox }
  ofExcept (.action c.action c.result.name) outcome

end Exec

end FeatureFlow
