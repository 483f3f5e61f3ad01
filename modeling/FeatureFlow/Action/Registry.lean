import FeatureFlow.Action.Accept
import FeatureFlow.Action.Binding
import FeatureFlow.Action.Output
import FeatureFlow.Action.Server
import FeatureFlow.Action.Storage

/-! The actions by their verbs, letter case ignored. A verb keeps its action once it has one. -/
namespace FeatureFlow

structure Registry where
  actions : KeyMap Action := []

inductive RegistryError where
  | duplicateVerb (verb : String) (role : Role)
  | noVerbs
  deriving Repr, DecidableEq

def RegistryError.message : RegistryError → String
  | duplicateVerb verb role => s!"verb '{verb}' is already registered as {role.text}"
  | noVerbs => "action declares no verbs"

namespace Registry

def lower (verb : String) : String := String.ofList (Text.lower verb.toList)

def get? (r : Registry) (verb : String) : Option Action := r.actions.get? (lower verb)

def taken? (r : Registry) (verb : String) : Option RegistryError :=
  (r.actions.get? verb).map fun a => .duplicateVerb verb a.role

/-- All verbs of an action are registered, or none if one of them is taken. -/
def register (r : Registry) (a : Action) : Except RegistryError Unit × Registry :=
  match a.verbs.map lower with
  | [] => (.error .noVerbs, r)
  | verbs => match verbs.findSome? r.taken? with
    | some e => (.error e, r)
    | none => (.ok (), ⟨r.actions.insertAll (verbs.map (·, a))⟩)

/-- Registers actions one after the other, also when one of them cannot be. -/
def registerAll (r : Registry) (actions : List Action) : Registry :=
  actions.foldl (fun r a => (r.register a).2) r

def builtinActions : List Action :=
  [Action.extract, Action.retrieve, Action.create, Action.validate, Action.update, Action.accept,
    Action.return_, Action.throw_, Action.log, Action.emit, Action.publish, Action.store,
    Action.start, Action.stop, Action.keepalive]

def builtins : Registry := registerAll {} builtinActions

/-- The verbs of a role, in order. -/
def verbsOf (r : Registry) (role : Role) : List String :=
  KeyMap.names (r.actions.filter fun (_, a) => a.role == role)

end Registry

end FeatureFlow
