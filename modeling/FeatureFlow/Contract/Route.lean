import FeatureFlow.Contract.Basic
import FeatureFlow.Text.Case

/-! Finding the route of a request. -/
namespace FeatureFlow.Route

/-- The captures of a path, when method and template fit. -/
def match? (r : Route) (method path : String) : Option (KeyMap String) :=
  if Text.sameIgnoringCase r.method.text method then r.template.match? path else none

/-- The first route that fits. -/
def find? (routes : List Route) (method path : String) : Option (Route × KeyMap String) :=
  routes.findSome? fun r => (r.match? method path).map (r, ·)

/-- The required query parameters that a query lacks. -/
def missingQuery (r : Route) (query : KeyMap String) : List String :=
  (r.parameters.filter fun p => p.location == .query && p.required && !query.contains p.name).map
    (·.name)

end FeatureFlow.Route
