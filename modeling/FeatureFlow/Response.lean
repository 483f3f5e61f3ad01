import FeatureFlow.Json.Basic
import FeatureFlow.KeyMap
import FeatureFlow.Text.Case
import FeatureFlow.Value.Json

/-! Responses of feature sets, and the HTTP responses made of them. -/
namespace FeatureFlow

structure Response where
  status : String
  code : Nat
  body : Value

/-- The code of a status label; only its letters and digits count. -/
def statusCode? (label : String) : Option Nat :=
  match String.ofList (Text.asciiLower (label.toList.filter Char.isAlphanum)) with
  | "ok" | "success" => some 200
  | "created" => some 201
  | "accepted" => some 202
  | "nocontent" => some 204
  | "badrequest" | "invalid" => some 400
  | "unauthorized" => some 401
  | "forbidden" => some 403
  | "notfound" => some 404
  | "conflict" => some 409
  | "unprocessable" | "unprocessableentity" => some 422
  | "error" | "servererror" | "internalerror" | "internalservererror" => some 500
  | _ => none

/-- A label that is no status counts as success. -/
def Response.ofLabel (status : String) (body : Value) : Response :=
  ⟨status, (statusCode? status).getD 200, body⟩

structure HttpResponse where
  status : Nat
  headers : KeyMap String
  body : Json

namespace HttpResponse

def ofJson (status : Nat) (body : Json) : HttpResponse :=
  ⟨status, [("content-type", "application/json")], body⟩

def error (status : Nat) (message : String) : HttpResponse :=
  ofJson status (.object [("error", .string message)])

def noRoute (method path : String) : HttpResponse := error 404 s!"no route for {method} {path}"

def ofResponse (r : Response) : HttpResponse := ofJson r.code r.body.toJson

end HttpResponse

end FeatureFlow
