import FeatureFlow.Process
import FeatureFlow.Response
import FeatureFlow.Scope
import FeatureFlow.Statement.Basic

/-! Actions: what commands do. An action reads the scope, may emit notices, change the shared state
and wait, and says how the run goes on. -/
namespace FeatureFlow

inductive Role where
  | request
  | own
  | response
  | export_
  | server
  deriving Repr, DecidableEq

def Role.text : Role → String
  | request => "REQUEST"
  | own => "OWN"
  | response => "RESPONSE"
  | export_ => "EXPORT"
  | server => "SERVER"

def Role.ofText? : String → Option Role
  | "REQUEST" => some request
  | "OWN" => some own
  | "RESPONSE" => some response
  | "EXPORT" => some export_
  | "SERVER" => some server
  | _ => none

inductive Outcome where
  /-- Bind the result's name, after qualifier and specifier. -/
  | bind (v : Value)
  /-- Bind another name to the value as it is. -/
  | assign (name : String) (v : Value)
  | proceed
  /-- End the feature set. -/
  | respond (r : Response)

inductive ActionError where
  | eval (cause : EvalError)
  | thrown (reason : String) (v : Value)
  | validation (text : String)
  | wrongType (action actual : String)
  | invalidTransition (field expected actual : String)
  | unnamedObject (action : String)
  | repository (cause : RepositoryError)
  | deadline (scope : String)
  | other (text : String)

def deadlineMessage (scope : String) : String := s!"deadline exceeded in '{scope}'"

def ActionError.message : ActionError → String
  | eval cause => cause.message
  | thrown reason v => s!"{reason}: {v.display}"
  | validation text => s!"validation failed: {text}"
  | wrongType action actual => s!"{action} expected map, got {actual}"
  | invalidTransition field expected actual =>
    s!"cannot transition '{field}' from '{expected}': current state is '{actual}'"
  | unnamedObject action => s!"{action} needs a named object"
  | repository cause => cause.message
  | deadline scope => deadlineMessage scope
  | other text => text

/-- A process with an outbox. Changes made before a failure stay made. -/
abbrev ActionM := ExceptT ActionError (StateT (List Emission) Process)

structure Action where
  role : Role
  verbs : List String
  /-- The prepositions an object may have; none listed means any. -/
  prepositions : List Preposition := []
  /-- What it does in a scope that has a deadline or none. -/
  run : Scope → Option Nat → Target → Object → ActionM Outcome

def Action.accepts (a : Action) (p : Preposition) : Bool :=
  a.prepositions.isEmpty || a.prepositions.contains p

namespace ActionM

def ofExcept {ε α : Type} (wrap : ε → ActionError) : Except ε α → ActionM α
  | .ok a => pure a
  | .error e => throw (wrap e)

def ofProcess {α : Type} (p : Process α) : ActionM α := ExceptT.lift (StateT.lift p)

def services : ActionM Services := ofProcess Process.services

def resolve (scope : Scope) (name : String) : ActionM (Option Value) :=
  return scope.resolve (← services).symbols name

def eval (scope : Scope) (e : Expression) : ActionM Value := do
  ofExcept .eval (scope.eval (← services).symbols e)

def modifyServices (f : Services → Services) : ActionM Unit := ofProcess (Process.modify f)

def emit (e : Emission) : ActionM Unit := modify (· ++ [e])

def freshId : ActionM Uuid := do
  let id := (← services).fresh
  modifyServices Services.issue
  return id

end ActionM

/-- An action that works on the value of its object alone. -/
def Action.ofValue (role : Role) (verbs : List String) (prepositions : List Preposition)
    (f : Target → Value → Except ActionError Outcome) : Action where
  role
  verbs
  prepositions
  run scope _ target object := do
    ActionM.ofExcept id (f target (← ActionM.eval scope object.source))

end FeatureFlow
