import FeatureFlow.Action.Basic

/-! Actions whose effect is seen outside: return, throw, log, emit, publish. -/
namespace FeatureFlow.Action

def return_ : Action := .ofValue .response ["return", "respond"] [] fun target v =>
  .ok (.respond (.ofLabel target.name v))

def throw_ : Action :=
  .ofValue .response ["throw"] [] fun target v => .error (.thrown target.name v)

/-- The result names the channel. -/
def log : Action where
  role := .export_
  verbs := ["log", "print"]
  run scope _ target object := do
    let v ← ActionM.eval scope object.source
    ActionM.modifyServices (·.write ⟨target.name, scope.name, v.display⟩)
    return .proceed

/-- The result names the type of the event. -/
def emit : Action where
  role := .export_
  verbs := ["emit", "raise"]
  run scope _ target object := do
    let v ← ActionM.eval scope object.source
    let (e, services) := (← ActionM.services).newEvent target.name v
    ActionM.modifyServices fun _ => services
    ActionM.emit (.event e)
    return .proceed

def publish : Action where
  role := .export_
  verbs := ["publish", "export"]
  run scope _ target object := do
    let v ← ActionM.eval scope object.source
    ActionM.modifyServices (·.publish target.name v)
    return .bind v

end FeatureFlow.Action
