import FeatureFlow.Activity
import FeatureFlow.Json.Record
import FeatureFlow.Timestamp
import FeatureFlow.Uuid

/-! Events, and the other notices that feature sets leave for observers. -/
namespace FeatureFlow

structure Event where
  id : Uuid
  type : String
  payload : Value
  createdAt : Timestamp
  causedBy : Option Uuid := none

inductive ChangeKind where
  | created
  | updated
  | deleted
  deriving Repr, DecidableEq

/-- An entity of a repository has changed. -/
structure EntityChange where
  id : Uuid
  repository : String
  kind : ChangeKind
  entityId : String
  new : Option Value := none
  old : Option Value := none

/-- A field of an entity has moved to another state. -/
structure StateChange where
  id : Uuid
  field : String
  transition : Transition
  entity : Value

inductive Emission where
  | event (e : Event)
  | change (c : EntityChange)
  | state (t : StateChange)

namespace Event

/-- The type of the events that report a failed feature set. -/
def failureType : String := "FeatureSetFailed"

/-- Payloads are maps: null becomes the empty one, and any other value a field. -/
def wrap : Value → Value
  | .map fields => .map fields
  | .null => .map []
  | v => .map [("value", v)]

def isFailure (e : Event) : Bool := e.type == failureType

def ofJson? (j : Json) : Option Event := do
  match ← j.members? ["id", "event_type", "payload", "created_at", "caused_by"] 5 with
  | [id, type, payload, createdAt, causedBy] =>
    let id ← Json.required? (fun j => j.string?.bind Uuid.read?) id
    let type ← Json.required? Json.string? type
    let payload ← Json.required? (fun j => some (Value.ofJson j)) payload
    let createdAt ← Json.required? (fun j => j.string?.bind Timestamp.read?) createdAt
    let causedBy ← Json.optional? (fun j => j.string?.bind Uuid.read?) causedBy
    return { id, type, payload, createdAt, causedBy }
  | _ => none

def toJson (e : Event) : Json :=
  .object [("id", .string e.id.text), ("event_type", .string e.type), ("payload", e.payload.toJson),
    ("created_at", .string e.createdAt.exactText),
    ("caused_by", (e.causedBy.map fun u => Json.string u.text).getD .null)]

end Event

def ChangeKind.text : ChangeKind → String
  | created => "created"
  | updated => "updated"
  | deleted => "deleted"

def ChangeKind.ofText? : String → Option ChangeKind
  | "created" => some created
  | "updated" => some updated
  | "deleted" => some deleted
  | _ => none

def EntityChange.toValue (c : EntityChange) : Value :=
  .ofFields [("repository", .string c.repository), ("changeType", .string c.kind.text),
    ("entityId", .string c.entityId), ("newValue", c.new.getD .null),
    ("oldValue", c.old.getD .null)]

def StateChange.toValue (t : StateChange) : Value :=
  .ofFields [("field", .string t.field), ("fromState", .string t.transition.source),
    ("toState", .string t.transition.target), ("entity", t.entity)]

namespace Emission

def id : Emission → Uuid
  | event e => e.id
  | change c => c.id
  | state t => t.id

def kind : Emission → String
  | event _ => "event"
  | change _ => "repository"
  | state _ => "stateTransition"

/-- Events name what caused them, once. -/
def causedBy (parent : Uuid) : Emission → Emission
  | event e => event { e with causedBy := e.causedBy <|> some parent }
  | emission => emission

end Emission

end FeatureFlow
