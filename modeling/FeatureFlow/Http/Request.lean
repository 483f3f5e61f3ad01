import FeatureFlow.Http.Query
import FeatureFlow.Json.Printer
import FeatureFlow.Json.Reader
import FeatureFlow.Text.Case
import FeatureFlow.Value.Json

/-! Requests, with header names in lower case. -/
namespace FeatureFlow

structure Request where
  method : String
  path : String
  headers : KeyMap String := []
  query : KeyMap String := []
  body : List UInt8 := []

namespace Request

def withHeader (r : Request) (name value : String) : Request :=
  { r with headers := r.headers.insert (String.ofList (Text.asciiLower name.toList)) value }

def withQuery (r : Request) (name value : String) : Request :=
  { r with query := r.query.insert name value }

def withQueryString (r : Request) (text : String) : Request :=
  { r with query := r.query.insertAll (Query.parse text) }

def withBody (r : Request) (body : List UInt8) : Request := { r with body }

def withText (r : Request) (text : String) : Request := r.withBody (Text.encode text.toList)

def withJson (r : Request) (j : Json) : Request :=
  (r.withHeader "content-type" "application/json").withText j.render

/-- Space, tab, line feed, form feed and carriage return. -/
def isBlankByte (b : UInt8) : Bool := b == 32 || b == 9 || b == 10 || b == 12 || b == 13

/-- Null when blank, else the JSON it holds, else its text. -/
def bodyValue (r : Request) : Value :=
  if r.body.all isBlankByte then .null
  else match (Text.decode? r.body).bind (Json.read? 127) with
    | some j => .ofJson j
    | none => .string (String.ofList (Text.decodeLossy r.body))

end Request

end FeatureFlow
