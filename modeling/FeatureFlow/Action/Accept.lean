import FeatureFlow.Action.Basic

/-! Accepting a state transition: a field has to be in one state and is put into another. -/
namespace FeatureFlow

/-- Replaces the value at a path of fields; missing maps on the way are made. -/
def Value.put (new : Value) : List String → Value → Except ActionError Value
  | [], _ => .ok new
  | name :: path, v => match v with
    | .map fields => do
      return .map (KeyMap.insert fields name
        (← put new path ((KeyMap.get? fields name).getD .null)))
    | .null => do return .map [(name, ← put new path .null)]
    | v => .error (.wrongType "accept" v.typeName)

namespace Action

/-- The transition in a label `from_to_to`, which is the qualifier if there is one. -/
def transitionOf (target : Target) : Except ActionError Transition :=
  let label := target.qualifier.getD target.name
  match Transition.cut? label.toList with
  | some t => .ok t
  | none => .error (.validation s!"'{label}' is not <from>_to_<to>")

/-- The name, path and field that an object refers to. -/
def fieldOf (object : Object) : Except ActionError (String × List String × String) :=
  match object.source with
  | .reference name path _ => match path.getLast? with
    | some field => .ok (name, path, field)
    | none => .error (.validation s!"accept needs a field on <{name}>")
  | _ => .error (.unnamedObject "accept")

/-- The entity after a transition from the state it is in. -/
def moved (t : Transition) (path : List String) (field : String) (entity : Value) :
    Except ActionError Value :=
  let current := ((entity.get? path).map Value.display).getD ""
  if Text.sameIgnoringCase current t.source then Value.put (.string t.target) path entity
  else .error (.invalidTransition field t.source current)

def accept : Action where
  role := .own
  verbs := ["accept"]
  prepositions := [.on, .for_]
  run scope _ target object := do
    let t ← ActionM.ofExcept id (transitionOf target)
    let (name, path, field) ← ActionM.ofExcept id (fieldOf object)
    let entity := (← ActionM.resolve scope name).getD .null
    let entity ← ActionM.ofExcept id (moved t path field entity)
    ActionM.emit (.state ⟨← ActionM.freshId, field, t, entity⟩)
    return .assign name entity

end Action

end FeatureFlow
