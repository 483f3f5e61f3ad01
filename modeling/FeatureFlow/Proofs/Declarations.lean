import FeatureFlow.Contract.Route
import FeatureFlow.Proofs.Records

/-! What a contract declares, read off the document. The routes of a contract that is in order are
its operations as declared, so that a request can be judged by the document alone. -/
namespace FeatureFlow

/-- An operation where the document declares it. -/
structure Declaration where
  path : String
  item : PathItem
  method : Method
  operation : Operation
  deriving DecidableEq

/-- The operations in document order. -/
def Contract.declarations (c : Contract) : List Declaration :=
  c.paths.flatMap fun p => p.2.operations.map fun o => ⟨p.1, p.2, o.1, o.2⟩

namespace Declaration

/-- The parameters in force: an operation's own stand in for those of its path with their name and
location. -/
def parameters (d : Declaration) : List Parameter :=
  d.item.parameters.filter (fun p => ∀ o ∈ d.operation.parameters,
    ¬ (o.name = p.name ∧ o.location = p.location)) ++
    d.operation.parameters

/-- The names of the required query parameters that a query lacks. -/
def lacking (d : Declaration) (query : KeyMap String) : List String :=
  (d.parameters.filter fun p => p.location = .query ∧ p.required = true ∧
    query.get? p.name = none).map (·.name)

/-- The captures of a path, when method and template fit. -/
def captures? (d : Declaration) (method path : String) : Option (KeyMap String) :=
  if Text.sameIgnoringCase d.method.text method then (Template.parse d.path).toOption.bind
    (·.match? path) else none

/-- The route that an operation stands for, if it has an id and its path is well formed. -/
def route? (d : Declaration) : Option Route := do
  let id ← d.operation.id?
  let template ← (Template.parse d.path).toOption
  return ⟨d.method, template, id, d.parameters, d.operation.bodyRequired⟩

/-- The route is that of the operation. -/
structure Gives (d : Declaration) (r : Route) : Prop where
  method : r.method = d.method
  template : Template.parse d.path = .ok r.template
  operation : d.operation.id = some r.operation
  parameters : r.parameters = d.parameters
  bodyRequired : r.bodyRequired = d.operation.bodyRequired

variable {d : Declaration} {r : Route}

theorem gives_of_route? (h : d.route? = some r) : d.Gives r := by
  simp only [route?, Option.bind_eq_bind, Option.bind_eq_some_iff] at h
  obtain ⟨id, hid, template, ht, hr⟩ := h
  cases hr
  exact ⟨rfl, eq_ok_of_toOption ht, (Option.filter_eq_some_iff.mp hid).1, rfl, rfl⟩

theorem parameters_eq (d : Declaration) : d.item.parametersOf d.operation = d.parameters := by
  rw [parameters, PathItem.parametersOf]
  congr 1
  apply List.filter_congr
  intro p _
  rw [Bool.eq_iff_iff]
  simp

theorem Gives.missingQuery (h : d.Gives r) (query : KeyMap String) :
    r.missingQuery query = d.lacking query := by
  rw [Route.missingQuery, lacking, h.parameters]
  congr 1
  apply List.filter_congr
  intro p _
  rw [Bool.eq_iff_iff]
  simp [KeyMap.contains, and_assoc]

theorem Gives.match? (h : d.Gives r) (method path : String) :
    r.match? method path = d.captures? method path := by
  rw [Route.match?, captures?, h.method, h.template]
  rfl

end Declaration

namespace Contract

/-- The first operation that fits, with its captures. -/
def find? (c : Contract) (method path : String) : Option (Declaration × KeyMap String) :=
  c.declarations.findSome? fun d => (d.captures? method path).map (d, ·)

namespace Findings

variable {f : Findings} {path : String} {item : PathItem} {template : Template}

/-- An operation with which nothing is wrong gives its route. -/
theorem addOperation_routes (ht : Template.parse path = .ok template) {entry : Method × Operation}
    (h : (f.addOperation path (some template) item entry).problems = []) :
    f.problems = [] ∧ ∃ r, (Declaration.mk path item entry.1 entry.2).route? = some r ∧
      (f.addOperation path (some template) item entry).routes = f.routes ++ [r] := by
  rw [addOperation] at h ⊢
  cases hid : entry.2.id? with
  | none => simp [hid] at h
  | some id =>
    simp only [hid] at h ⊢
    split at h
    · simp at h
    · rename_i hnew
      rw [if_neg hnew]
      refine ⟨h, _, ?_, rfl⟩
      simp only [Declaration.route?, hid, ht, Declaration.parameters_eq
        ⟨path, item, entry.1, entry.2⟩]
      rfl

theorem addOperations_routes (ht : Template.parse path = .ok template)
    {entries : List (Method × Operation)}
    (h : (entries.foldl (addOperation path (some template) item) f).problems = []) :
    f.problems = [] ∧ (entries.foldl (addOperation path (some template) item) f).routes.map some =
      f.routes.map some ++ entries.map fun o => (Declaration.mk path item o.1 o.2).route? := by
  induction entries generalizing f with
  | nil => exact ⟨h, by simp⟩
  | cons entry entries ih =>
    rw [List.foldl_cons] at h ⊢
    obtain ⟨hstep, hrest⟩ := ih h
    obtain ⟨hf, r, hr, hroutes⟩ := addOperation_routes ht hstep
    refine ⟨hf, ?_⟩
    rw [hrest, hroutes, List.map_append, List.map_cons, List.map_nil, List.map_cons, hr,
      List.append_assoc,
      List.singleton_append]

/-- A problem stays. -/
theorem problems_of_addOperations {template : Option Template} {entries : List (Method × Operation)}
    (h : (entries.foldl (addOperation path template item) f).problems = []) : f.problems = [] := by
  induction entries generalizing f with
  | nil => exact h
  | cons entry entries ih =>
    have hstep := ih h
    rw [addOperation] at hstep
    split at hstep
    · simp at hstep
    · split at hstep
      · simp at hstep
      · split at hstep <;> exact hstep

theorem addPath_routes {entry : String × PathItem} (h : (f.addPath entry).problems = []) :
    f.problems = [] ∧ (f.addPath entry).routes.map some =
      f.routes.map some ++ entry.2.operations.map fun o =>
        (Declaration.mk entry.1 entry.2 o.1 o.2).route? := by
  rw [addPath] at h ⊢
  cases ht : Template.parse entry.1 with
  | error cause =>
    simp only [ht] at h
    have hproblems := problems_of_addOperations h
    simp at hproblems
  | ok template =>
    simp only [ht] at h ⊢
    exact addOperations_routes ht h

theorem addPaths_routes {paths : List (String × PathItem)}
    (h : (paths.foldl addPath f).problems = []) :
    f.problems = [] ∧ (paths.foldl addPath f).routes.map some =
      f.routes.map some ++ (Contract.mk none paths).declarations.map (·.route?) := by
  induction paths generalizing f with
  | nil => exact ⟨h, by simp [declarations]⟩
  | cons entry paths ih =>
    rw [List.foldl_cons] at h ⊢
    obtain ⟨hstep, hrest⟩ := ih h
    obtain ⟨hf, hroutes⟩ := addPath_routes hstep
    refine ⟨hf, ?_⟩
    rw [hrest, hroutes, List.append_assoc]
    simp [declarations, Function.comp_def]

end Findings

/-- A contract that is in order has one route for each operation, in document order. -/
theorem routes_eq {c : Contract} {routes : List Route} (h : c.routes = .ok routes) :
    routes.map some = c.declarations.map (·.route?) := by
  rw [Contract.routes] at h
  split at h
  · rename_i hproblems
    cases h
    exact (Findings.addPaths_routes hproblems).2
  · cases h

/-- Looking for a route is looking for an operation in the document. -/
theorem find?_routes {routes : List Route} {declarations : List Declaration}
    (h : routes.map some = declarations.map (·.route?)) (method path : String) :
    Route.find? routes method path =
      (declarations.findSome? fun d => (d.captures? method path).map (d, ·)).bind fun found =>
        found.1.route?.map (·, found.2) := by
  induction declarations generalizing routes with
  | nil =>
    obtain rfl : routes = [] := List.map_eq_nil_iff.mp h
    rfl
  | cons d declarations ih =>
    obtain ⟨r, routes', rfl, hd, hrest⟩ := List.map_eq_cons_iff.mp h
    rw [Route.find?, List.findSome?_cons, List.findSome?_cons,
      (Declaration.gives_of_route? hd.symm).match?]
    cases d.captures? method path with
    | none => exact ih hrest
    | some captures => simp [← hd]

variable {c : Contract} {routes : List Route} {method path : String}

theorem route_find?_none (h : c.routes = .ok routes) (hf : c.find? method path = none) :
    Route.find? routes method path = none := by
  rw [find?_routes (routes_eq h), ← find?, hf]
  rfl

theorem route_find?_some (h : c.routes = .ok routes) {d : Declaration} {captures : KeyMap String}
    (hf : c.find? method path = some (d, captures)) :
    ∃ r, d.Gives r ∧ Route.find? routes method path = some (r, captures) := by
  have hmem : d ∈ c.declarations := by
    obtain ⟨d', hd', hmatch⟩ := List.exists_of_findSome?_eq_some hf
    obtain ⟨_, _, heq⟩ := Option.map_eq_some_iff.mp hmatch
    cases heq
    exact hd'
  have hroute : d.route? ∈ routes.map some := by
    rw [routes_eq h]
    exact List.mem_map_of_mem hmem
  obtain ⟨r, -, hr⟩ := List.mem_map.mp hroute
  refine ⟨r, Declaration.gives_of_route? hr.symm, ?_⟩
  rw [find?_routes (routes_eq h), ← find?, hf, Option.bind_some, ← hr]
  rfl

end Contract

end FeatureFlow
