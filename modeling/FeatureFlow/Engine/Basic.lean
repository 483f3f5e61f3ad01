import FeatureFlow.Contract.Route
import FeatureFlow.Dispatch
import FeatureFlow.Execution.Run

/-! Loading an application: each feature set is tied to what starts it, and all problems are
reported together. -/
namespace FeatureFlow

structure Limits where
  /-- Milliseconds that handlers of an emission, an invocation or a request have. -/
  timeout : Option Nat := some 30000
  cascade : Nat := Dispatch.defaultLimit
  deriving Repr, DecidableEq

structure StateObserver where
  field : String
  transition : Option Transition
  featureSet : FeatureSet

def StateObserver.accepts (o : StateObserver) (t : StateChange) : Bool :=
  Text.sameIgnoringCase o.field t.field && o.transition.all fun wanted =>
    Text.sameIgnoringCase wanted.source t.transition.source &&
      Text.sameIgnoringCase wanted.target t.transition.target

structure RepositoryObserver where
  repository : String
  featureSet : FeatureSet

structure Engine where
  name : String
  featureSets : List FeatureSet := []
  endHandlers : List FeatureSet := []
  subscriptions : List Subscription := []
  repositoryObservers : List RepositoryObserver := []
  stateObservers : List StateObserver := []
  routes : Option (List Route) := none
  registry : Registry := .builtins
  limits : Limits := {}

inductive StartupProblem where
  | duplicateFeatureSet (name : String)
  | activity (featureSet : String) (cause : ActivityError)
  | missingHandler (operation : String)
  deriving Repr, DecidableEq

inductive StartupError where
  | contract (problems : List ContractProblem)
  | invalid (problems : List StartupProblem)
  deriving Repr, DecidableEq

def StartupProblem.message : StartupProblem → String
  | duplicateFeatureSet name => s!"feature set '{name}' is defined more than once"
  | activity featureSet cause => s!"feature set '{featureSet}': {cause.message}"
  | missingHandler operation => s!"no feature set handles operation '{operation}'"

namespace StartupError

def message : StartupError → String
  | contract problems => ContractProblem.summary problems
  | invalid problems =>
    s!"{problems.length} startup problem(s): " ++
      "; ".intercalate (problems.map StartupProblem.message)

/-- The operations that no feature set handles. -/
def missing : StartupError → List String
  | contract _ => []
  | invalid problems => problems.filterMap fun
    | .missingHandler operation => some operation
    | _ => none

end StartupError

namespace Engine

def featureSet? (e : Engine) (name : String) : Option FeatureSet :=
  e.featureSets.find? (·.name = name)

/-- Ties a feature set to its activity. -/
def tie (e : Engine) (f : FeatureSet) : Activity → Engine
  | .event type guards => { e with subscriptions := e.subscriptions ++ [⟨type, guards, f.name⟩] }
  | .repository name => { e with repositoryObservers := e.repositoryObservers ++ [⟨name, f⟩] }
  | .state field transition =>
    { e with stateObservers := e.stateObservers ++ [⟨field, transition, f⟩] }
  | .other => e

/-- Adds a feature set. Those for the end of the application may share their name. -/
def add (e : Engine) (f : FeatureSet) : List StartupProblem × Engine :=
  if f.name = Activity.endName then ([], { e with endHandlers := e.endHandlers ++ [f] })
  else if (e.featureSet? f.name).isSome then ([.duplicateFeatureSet f.name], e)
  else
    let added := { e with featureSets := e.featureSets ++ [f] }
    match Activity.parse f.activity with
    | .ok activity => ([], added.tie f activity)
    | .error cause => ([.activity f.name cause], added)

def addAll (e : Engine) : List FeatureSet → List StartupProblem × Engine
  | [] => ([], e)
  | f :: fs =>
    let (problems, e) := e.add f
    let (more, e) := addAll e fs
    (problems ++ more, e)

/-- The operations of the routes that have no feature set. -/
def unhandled (e : Engine) : List StartupProblem :=
  ((e.routes.getD []).filter fun r => (e.featureSet? r.operation).isNone).map
    (.missingHandler ·.operation)

def load (registry : Registry) (limits : Limits) (contract : Option Contract) (app : Application) :
    Except StartupError Engine := do
  let routes ← match contract with
    | none => pure none
    | some c => match c.routes with
      | .ok routes => pure (some routes)
      | .error problems => throw (.contract problems)
  let (problems, e) := addAll { name := app.name, routes, registry, limits } app.featureSets
  match problems ++ e.unhandled with
  | [] => return e
  | problems => throw (.invalid problems)

inductive SubscribeError where
  | unknownFeatureSet (name : String)
  | guard (cause : GuardError)
  deriving Repr, DecidableEq

def SubscribeError.message : SubscribeError → String
  | unknownFeatureSet name => s!"no feature set named '{name}'"
  | guard cause => cause.message

def subscribe (e : Engine) (type guard featureSet : String) : Except SubscribeError Engine :=
  if (e.featureSet? featureSet).isNone then .error (.unknownFeatureSet featureSet)
  else match Subscription.parse type guard featureSet with
    | .ok s => .ok { e with subscriptions := e.subscriptions ++ [s] }
    | .error cause => .error (.guard cause)

end Engine

end FeatureFlow
