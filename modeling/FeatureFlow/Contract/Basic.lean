import FeatureFlow.Http.Template
import FeatureFlow.Text.Blank

/-! Contracts declare the operations that requests can reach, path by path in document order. -/
namespace FeatureFlow

inductive Method where
  | get
  | put
  | post
  | delete
  | patch
  | head
  | options
  deriving Repr, DecidableEq

def Method.text : Method → String
  | get => "GET"
  | put => "PUT"
  | post => "POST"
  | delete => "DELETE"
  | patch => "PATCH"
  | head => "HEAD"
  | options => "OPTIONS"

inductive Location where
  | path
  | query
  | header
  | cookie
  deriving Repr, DecidableEq

def Location.text : Location → String
  | path => "path"
  | query => "query"
  | header => "header"
  | cookie => "cookie"

structure Parameter where
  name : String
  location : Location
  required : Bool
  deriving Repr, DecidableEq

structure Operation where
  id : Option String
  parameters : List Parameter
  bodyRequired : Bool
  deriving Repr, DecidableEq

/-- The operations of one path, in the fixed order of methods. -/
structure PathItem where
  parameters : List Parameter
  operations : List (Method × Operation)
  deriving Repr, DecidableEq

structure Contract where
  openapi : Option String
  paths : List (String × PathItem)
  deriving Repr, DecidableEq

structure Route where
  method : Method
  template : Template
  operation : String
  parameters : List Parameter
  bodyRequired : Bool
  deriving Repr, DecidableEq

inductive ContractProblem where
  | missingId (method : Method) (path : String)
  | duplicateId (id : String)
  | template (path : String) (cause : TemplateError)
  deriving Repr, DecidableEq

def ContractProblem.message : ContractProblem → String
  | missingId method path => s!"{method.text} {path} has no operationId"
  | duplicateId id => s!"operationId '{id}' is used more than once"
  | template path cause => s!"path '{path}': {cause.message}"

/-- The message for a contract with these problems. -/
def ContractProblem.summary (problems : List ContractProblem) : String :=
  s!"contract has {problems.length} problem(s): " ++ "; ".intercalate (problems.map message)

/-- An id that is not blank. -/
def Operation.id? (op : Operation) : Option String :=
  op.id.filter fun id => Text.trim id.toList ≠ []

/-- The path's parameters that the operation does not declare again, then the operation's own. -/
def PathItem.parametersOf (item : PathItem) (op : Operation) : List Parameter :=
  item.parameters.filter (fun p =>
    !op.parameters.any fun o => o.name == p.name && o.location == p.location) ++ op.parameters

namespace Contract

structure Findings where
  problems : List ContractProblem := []
  routes : List Route := []
  /-- The ids in use so far. -/
  ids : List String := []

/-- An operation gives a route if its path is well formed and its id is there and new. -/
def Findings.addOperation (path : String) (template : Option Template) (item : PathItem)
    (f : Findings) (entry : Method × Operation) : Findings :=
  match entry.2.id? with
  | none => { f with problems := f.problems ++ [.missingId entry.1 path] }
  | some id =>
    if id ∈ f.ids then { f with problems := f.problems ++ [.duplicateId id] }
    else match template with
      | none => { f with ids := id :: f.ids }
      | some template =>
        let route := ⟨entry.1, template, id, item.parametersOf entry.2, entry.2.bodyRequired⟩
        { f with ids := id :: f.ids, routes := f.routes ++ [route] }

def Findings.addPath (f : Findings) (entry : String × PathItem) : Findings :=
  match Template.parse entry.1 with
  | .ok template => entry.2.operations.foldl (addOperation entry.1 (some template) entry.2) f
  | .error cause =>
    entry.2.operations.foldl (addOperation entry.1 none entry.2)
      { f with problems := f.problems ++ [.template entry.1 cause] }

def findings (c : Contract) : Findings := c.paths.foldl Findings.addPath {}

/-- The routes of a contract, or all that is wrong with it. -/
def routes (c : Contract) : Except (List ContractProblem) (List Route) :=
  if c.findings.problems = [] then .ok c.findings.routes else .error c.findings.problems

end Contract

end FeatureFlow
