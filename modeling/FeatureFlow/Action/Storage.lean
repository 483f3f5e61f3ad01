import FeatureFlow.Action.Basic

/-! Actions on repositories: retrieve and store. -/
namespace FeatureFlow.Action

def repositoryOf (action : String) (object : Object) : Except ActionError String :=
  match object.name? with
  | some name => .ok name
  | none => .error (.unnamedObject action)

/-- A filter without a specifier asks for the first entity, or null. -/
def retrieved (target : Target) (filter : Option Value) (found : List Value) : Value :=
  if filter.isSome && target.specifier.isWhole then found.head?.getD .null else .list found

def retrieve : Action where
  role := .request
  verbs := ["retrieve"]
  run scope _ target object := do
    let repository ← ActionM.ofExcept id (repositoryOf "retrieve" object)
    let filter ← object.filter.mapM (ActionM.eval scope)
    let found ← ActionM.ofExcept .repository
      ((← ActionM.services).repositories.retrieve repository filter)
    return .bind (retrieved target filter found)

/-- Stores what the result's name is bound to, and binds it again with the id it has then. -/
def store : Action where
  role := .export_
  verbs := ["store", "save", "persist"]
  prepositions := [.into, .to_]
  run scope _ target object := do
    let repository ← ActionM.ofExcept id (repositoryOf "store" object)
    let v := (← ActionM.resolve scope target.name).getD .null
    let stored := (← ActionM.services).store repository v
    ActionM.modifyServices fun _ => stored.2
    let receipt ← ActionM.ofExcept .repository stored.1
    let id ← ActionM.freshId
    ActionM.emit (.change
      ⟨id, repository, receipt.kind, receipt.entityId, some receipt.stored, receipt.previous⟩)
    return .bind receipt.stored

end FeatureFlow.Action
