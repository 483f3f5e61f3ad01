import FeatureFlow.Action.Basic

/-! Actions on servers: start, stop, keepalive. Their objects are not evaluated. -/
namespace FeatureFlow.Action

def start : Action where
  role := .server
  verbs := ["start"]
  run _ _ target _ := do
    let (changed, services) := (← ActionM.services).startServer target.name
    ActionM.modifyServices fun _ => services
    return .bind (.bool changed)

def stop : Action where
  role := .server
  verbs := ["stop"]
  run _ _ target _ := do
    let (changed, services) := (← ActionM.services).stopServer target.name
    ActionM.modifyServices fun _ => services
    return .bind (.bool changed)

/-- Waits for shutdown, and fails if the deadline comes first. -/
def keepalive : Action where
  role := .server
  verbs := ["keepalive", "wait"]
  run scope deadline _ _ := do
    match ← ActionM.ofProcess (Process.pause deadline) with
    | .signal => return .proceed
    | .deadline => throw (.deadline scope.name)

end FeatureFlow.Action
