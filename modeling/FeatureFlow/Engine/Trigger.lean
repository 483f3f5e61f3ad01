import FeatureFlow.Event
import FeatureFlow.Http.Request
import FeatureFlow.Contract.Route

/-! Triggers start feature sets, and bind names for them. -/
namespace FeatureFlow

inductive Phase where
  | start
  | end_
  deriving Repr, DecidableEq

def Phase.text : Phase → String
  | start => "start"
  | end_ => "end"

inductive Trigger where
  | event (e : Event)
  | change (c : EntityChange)
  | state (t : StateChange)
  | http (id : Uuid) (request : Request) (operation : String) (captures : KeyMap String)
  | invocation (id : Uuid) (input : Value)
  | lifecycle (id : Uuid) (phase : Phase)

namespace Trigger

def ofEmission : Emission → Trigger
  | .event e => event e
  | .change c => change c
  | .state t => state t

def kind : Trigger → String
  | event _ => "event"
  | change _ => "repository"
  | state _ => "stateTransition"
  | http .. => "http"
  | invocation .. => "invocation"
  | lifecycle .. => "lifecycle"

def id : Trigger → Uuid
  | event e => e.id
  | change c => c.id
  | state t => t.id
  | http id .. => id
  | invocation id _ => id
  | lifecycle id _ => id

def eventType? : Trigger → Option String
  | event e => some e.type
  | _ => none

def texts (m : KeyMap String) : Value := .map (m.map fun (name, text) => (name, .string text))

/-- The names that a trigger binds for the feature set of that name. -/
def bindings (featureSet : String) : Trigger → List (String × Value)
  | event e =>
    [("event", e.payload), ("event-type", .string e.type), ("event-id", .string e.id.text)]
  | change c => [("change", c.toValue), ("event", c.toValue)]
  | state t => [("transition", t.toValue), ("entity", t.entity), ("event", t.toValue)]
  | http _ request operation captures =>
    [("request", .ofFields [("method", .string request.method), ("path", .string request.path),
        ("operationId", .string operation), ("pathParameters", texts captures),
        ("queryParameters", texts request.query), ("headers", texts request.headers),
        ("body", request.bodyValue)]),
      ("pathParameters", texts captures), ("queryParameters", texts request.query),
      ("headers", texts request.headers), ("body", request.bodyValue)]
  | invocation _ input => [("input", input)]
  | lifecycle _ phase =>
    [("application", .ofFields [("featureSet", .string featureSet), ("phase", .string phase.text)])]

/-- What the event reports that follows a failed run. -/
def failure (t : Trigger) (featureSet message : String) : Value :=
  .ofFields [("featureSet", .string featureSet), ("triggerKind", .string t.kind),
    ("triggerId", .string t.id.text), ("eventType", (t.eventType?.map .string).getD .null),
    ("error", .string message)]

end Trigger

end FeatureFlow
