import FeatureFlow.Action.Basic

/-! Actions that make values: extract, create, validate, update. -/
namespace FeatureFlow.Action

def extract : Action := .ofValue .request ["extract", "parse"] [] fun _ v => .ok (.bind v)

def create : Action := .ofValue .own ["create", "compute", "transform"] [] fun _ v => .ok (.bind v)

/-- Fails unless the object is truthy. -/
def validate : Action := .ofValue .own ["validate"] [] fun target v =>
  if v.truthy then .ok (.bind v) else .error (.validation target.render)

/-- The fields to be updated; what is missing or null has none yet. -/
def fieldsOf : Option Value → Except ActionError (KeyMap Value)
  | some (.map fields) => .ok fields
  | none | some .null => .ok []
  | some v => .error (.wrongType "update" v.typeName)

/-- Puts the fields of the object over those of the result. -/
def update : Action where
  role := .own
  verbs := ["update", "merge"]
  run scope _ target object := do
    let fields ← ActionM.ofExcept id (fieldsOf (← ActionM.resolve scope target.name))
    match ← ActionM.eval scope object.source with
    | .map patch => return .bind (.map (fields.insertAll patch))
    | v => throw (.wrongType "update" v.typeName)

end FeatureFlow.Action
