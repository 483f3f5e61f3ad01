import FeatureFlow.Engine.Run

/-! The HTTP host: requests as they arrive, answered by an engine. -/
namespace FeatureFlow.Host

structure Arrival where
  method : String
  uri : String
  headers : List (String × String)
  body : List UInt8

/-- Every origin may read a reply. -/
structure Reply where
  status : Nat
  contentType : Option String
  body : String
  allowOrigin : String := "*"
  deriving Repr, DecidableEq

/-- The largest body that is read, in bytes. -/
def bodyLimit : Nat := 10 * 1024 * 1024

/-- Header values of other bytes than visible characters, blanks and tabs are dropped. -/
def isReadable (value : String) : Bool :=
  value.toList.all fun c => c = '\t' || (' ' ≤ c && c ≤ '~')

/-- A target without the host that may stand before its path. -/
def localPart (uri : List Char) : List Char :=
  if uri.head? = some '/' then uri
  else match Text.cut "://".toList uri with
    | some (_, rest) => rest.dropWhile fun c => c != '/' && c != '?'
    | none => uri

/-- Path and query of a target. -/
def splitTarget (uri : String) : String × Option String :=
  let cs := (localPart uri.toList).takeWhile (· ≠ '#')
  let (path, query) := match Text.cut ['?'] cs with
    | some (path, query) => (path, some (String.ofList query))
    | none => (cs, none)
  (if path = [] then "/" else String.ofList path, query)

def requestOf (a : Arrival) : Request :=
  let (path, query) := splitTarget a.uri
  let request : Request := { method := a.method, path, body := a.body }
  let request := (a.headers.filter fun (_, value) => isReadable value).foldl
    (fun r (name, value) => r.withHeader name value) request
  match query with
  | some text => request.withQueryString text
  | none => request

/-- An answer without content has neither body nor content type. -/
def replyOf (r : HttpResponse) : Reply :=
  if r.status = 204 then { status := 204, contentType := none, body := "" }
  else { status := r.status, contentType := r.headers.get? "content-type", body := r.body.render }

/-- A body that is too long is refused unread. -/
def replyTo (e : Engine) (a : Arrival) : Process Reply :=
  if bodyLimit < a.body.length then return replyOf (.error 400 "unreadable request body")
  else return replyOf (← e.handle (requestOf a))

/-- The host answers OPTIONS itself, and a reply to HEAD has no body. -/
def answer (e : Engine) (a : Arrival) : Process Reply :=
  if a.method = "OPTIONS" then return { status := 200, contentType := none, body := "" }
  else if a.method = "HEAD" then return { ← replyTo e a with body := "" }
  else replyTo e a

end FeatureFlow.Host
