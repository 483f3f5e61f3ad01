import FeatureFlow.Contract.Basic
import FeatureFlow.Json.Reader
import FeatureFlow.Json.Record

/-! Reading contracts from JSON. -/
namespace FeatureFlow

def Location.ofName? : String → Option Location
  | "path" => some path
  | "query" => some query
  | "header" => some header
  | "cookie" => some cookie
  | _ => none

def Parameter.ofJson? (j : Json) : Option Parameter := do
  match ← j.members? ["name", "in", "required"] 2 with
  | [name, location, required] =>
    let name ← Json.required? Json.string? name
    let location ← Json.required? (fun j => j.name?.bind Location.ofName?) location
    return ⟨name, location, ← Json.orElse? Json.bool? false required⟩
  | _ => none

/-- Whether a declared body is required. -/
def Operation.bodyOfJson? (j : Json) : Option Bool := do
  match ← j.members? ["required"] 0 with
  | [required] => Json.orElse? Json.bool? false required
  | _ => none

def Operation.ofJson? (j : Json) : Option Operation := do
  match ← j.members? ["operationId", "parameters", "requestBody"] 3 with
  | [id, parameters, body] =>
    let id ← Json.optional? Json.string? id
    let parameters ← Json.orElse? (Json.list? Parameter.ofJson?) [] parameters
    return ⟨id, parameters, (← Json.optional? bodyOfJson? body).getD false⟩
  | _ => none

def PathItem.ofJson? (j : Json) : Option PathItem := do
  let names := ["parameters", "get", "put", "post", "delete", "patch", "head", "options"]
  match ← j.members? names names.length with
  | parameters :: operations =>
    let parameters ← Json.orElse? (Json.list? Parameter.ofJson?) [] parameters
    let operations ← operations.mapM (Json.optional? Operation.ofJson?)
    let methods := [.get, .put, .post, .delete, .patch, .head, .options]
    return ⟨parameters, (methods.zip operations).filterMap fun (m, op) => op.map (m, ·)⟩
  | [] => none

namespace Contract

def pathsOfJson? : Json → Option (List (String × PathItem))
  | .object members => members.mapM fun (path, j) => (PathItem.ofJson? j).map (path, ·)
  | _ => none

def ofJson? (j : Json) : Option Contract := do
  match ← j.members? ["openapi", "paths"] 0 with
  | [openapi, paths] =>
    return ⟨← Json.optional? Json.string? openapi, ← Json.orElse? pathsOfJson? [] paths⟩
  | _ => none

def read? (text : String) : Option Contract := (Json.document? text).bind ofJson?

end Contract

end FeatureFlow
