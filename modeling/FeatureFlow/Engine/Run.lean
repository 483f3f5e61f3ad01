import FeatureFlow.Engine.Basic
import FeatureFlow.Engine.Trigger

/-! Running an engine: triggers start feature sets, and what those emit is dispatched. -/
namespace FeatureFlow.Engine

/-- How one run of a feature set ended, and what it emitted that has not been dispatched. -/
structure HandlerRun where
  featureSet : String
  result : Except ExecutionError (Option Response)
  emissions : List Emission

/-- When a run that starts now has to end. -/
def deadline (e : Engine) : Process (Option Nat) := do
  let now := (← Process.services).clock
  return e.limits.timeout.map (now + ·)

def freshId : Process Uuid := do
  let id := (← Process.services).fresh
  Process.modify Services.issue
  return id

def newEvent (type : String) (payload : Value) : Process Event := do
  let (e, services) := (← Process.services).newEvent type payload
  Process.modify fun _ => services
  return e

/-- The scope in which a feature set starts for a trigger. -/
def scopeFor (e : Engine) (f : FeatureSet) (t : Trigger) : Scope :=
  let root : Scope := { name := e.name }
  (root.snapshot.1.spawn f.name).bindAll (t.bindings f.name)

/-- The notice of a failed run; a failed handler of such notices gives none. -/
def failureNotice (f : FeatureSet) (t : Trigger) :
    Except ExecutionError (Option Response) → Process (List Emission)
  | .ok _ => return []
  | .error cause =>
    if t.eventType? = some Event.failureType then return []
    else do
      let e ← newEvent Event.failureType (t.failure f.name cause.message)
      return [.event { e with causedBy := some t.id }]

/-- Every trigger goes this way into a feature set. -/
def runHandler (e : Engine) (f : FeatureSet) (t : Trigger) (deadline : Option Nat) :
    Process HandlerRun := do
  let run ← f.run e.registry (e.scopeFor f t) deadline
  let notice ← failureNotice f t run.result
  return ⟨f.name, run.result, run.outbox.map (·.causedBy t.id) ++ notice⟩

/-- The feature sets that an emission starts, in order. -/
def handlers (e : Engine) : Emission → List FeatureSet
  | .event event =>
    (Subscription.subscribers e.subscriptions event).filterMap (e.featureSet? ·.featureSet)
  | .change c => (e.repositoryObservers.filter (·.repository = c.repository)).map (·.featureSet)
  | .state t => (e.stateObservers.filter (·.accepts t)).map (·.featureSet)

def route (e : Engine) (emission : Emission) : Process (List Emission) := do
  let deadline ← e.deadline
  let runs ← Process.gather ((e.handlers emission).map fun f =>
    e.runHandler f (.ofEmission emission) deadline)
  return runs.flatMap (·.emissions)

def notify (e : Engine) (emission : Emission) : Process Report :=
  Dispatch.dispatch (fun event => Process.modify (·.record event)) e.route e.limits.cascade emission

def publish (e : Engine) (type : String) (payload : Value) : Process Report := do
  e.notify (.event (← newEvent type payload))

/-- Dispatches emissions one after the other. -/
def dispatchAll (e : Engine) : List Emission → Process Unit
  | [] => return ()
  | emission :: emissions => do
    discard <| e.notify emission
    e.dispatchAll emissions

/-- Runs a feature set for a trigger and dispatches what it emitted. -/
def fire (e : Engine) (f : FeatureSet) (t : Trigger) (deadline : Option Nat) :
    Process HandlerRun := do
  let run ← e.runHandler f t deadline
  e.dispatchAll run.emissions
  return { run with emissions := [] }

def invoke (e : Engine) (name : String) (input : Value) : Process (Option HandlerRun) :=
  match e.featureSet? name with
  | none => return none
  | some f => do
    let id ← freshId
    return some (← e.fire f (.invocation id input) (← e.deadline))

/-- Starting and ending have no deadline. -/
def lifecycle (e : Engine) (f : FeatureSet) (phase : Phase) :
    Process (Except ExecutionError Unit) := do
  let id ← freshId
  let run ← e.fire f (.lifecycle id phase) none
  return run.result.map fun _ => ()

def start (e : Engine) : Process (Except ExecutionError Unit) :=
  match e.featureSet? Activity.startName with
  | none => return .ok ()
  | some f => e.lifecycle f .start

/-- Whether a feature set for the end of the application is meant for this outcome. -/
def concerns (success : Bool) (f : FeatureSet) : Bool :=
  match String.ofList (Text.asciiLower (Text.trim f.activity.toList)) with
  | "success" => success
  | "error" => !success
  | _ => true

/-- Runs all of them; the first failure is reported. -/
def finish (e : Engine) : List FeatureSet → Process (Except ExecutionError Unit)
  | [] => return .ok ()
  | f :: fs => do
    let result ← e.lifecycle f .end_
    let rest ← e.finish fs
    return match result with
      | .ok () => rest
      | .error cause => .error cause

def shutdown (e : Engine) (success : Bool) : Process (Except ExecutionError Unit) := do
  Process.modify Services.signalShutdown
  e.finish (e.endHandlers.filter (concerns success))

/-- The answer to a request whose feature set has run. -/
def answer (run : HandlerRun) : HttpResponse :=
  match run.result with
  | .ok (some r) => .ofResponse r
  | .ok none => .ofJson 204 .null
  | .error cause =>
    .ofJson 500 (.object [("error", .string cause.message), ("featureSet", .string run.featureSet),
      ("reason", (cause.reason?.map .string).getD .null)])

/-- Runs the feature set of the first route that fits. -/
def handle (e : Engine) (request : Request) : Process HttpResponse :=
  match Route.find? (e.routes.getD []) request.method request.path with
  | none => return .noRoute request.method request.path
  | some (r, captures) =>
    if r.missingQuery request.query ≠ [] then
      return .ofJson 400 (.object [("error", .string "missing required query parameters"),
        ("missing", .array ((r.missingQuery request.query).map .string))])
    else if r.bodyRequired &&
      request.bodyValue.isNull then return .error 400 "request body is required"
    else match e.featureSet? r.operation with
      | none => return .error 500 s!"no handler for {r.operation}"
      | some f => do
        let id ← freshId
        return answer (← e.fire f (.http id request r.operation captures) (← e.deadline))

end FeatureFlow.Engine
