import FeatureFlow.KeyMap
import FeatureFlow.Number.Binary64
import FeatureFlow.Text.Numeral
import FeatureFlow.Timestamp

/-! Dynamically typed values. Maps are held as entries in ascending name order. -/
namespace FeatureFlow

inductive Value where
  | null
  | bool (b : Bool)
  | int (n : Int64)
  | float (x : Float)
  | string (s : String)
  | timestamp (t : Timestamp)
  | list (items : List Value)
  | map (fields : List (String × Value))

namespace Value

instance : Inhabited Value := ⟨.null⟩

def typeName : Value → String
  | .null => "null"
  | .bool _ => "bool"
  | .int _ => "int"
  | .float _ => "float"
  | .string _ => "string"
  | .timestamp _ => "timestamp"
  | .list _ => "list"
  | .map _ => "map"

def isNull : Value → Bool
  | .null => true
  | _ => false

/-- Null, false, zero and what is empty are false. -/
def truthy : Value → Bool
  | .null => false
  | .bool b => b
  | .int n => n != 0
  | .float x => x != 0
  | .string s => s != ""
  | .timestamp _ => true
  | .list items => !items.isEmpty
  | .map fields => !fields.isEmpty

def toFloat? : Value → Option Float
  | .int n => some (Number.ofInt64 n)
  | .float x => some x
  | _ => none

def string? : Value → Option String
  | .string s => some s
  | _ => none

def list? : Value → Option (List Value)
  | .list items => some items
  | _ => none

def fields? : Value → Option (KeyMap Value)
  | .map fields => some fields
  | _ => none

def field? (v : Value) (name : String) : Option Value := v.fields?.bind (KeyMap.get? · name)

/-- One step of a path: a field of a map, or the item of a list at a position. -/
def step? (v : Value) (segment : String) : Option Value :=
  match v with
  | .map fields => KeyMap.get? fields segment
  | .list items => (Text.word64? segment.toList).bind (items[·]?)
  | _ => none

def get? : Value → List String → Option Value
  | v, [] => some v
  | v, segment :: path => (v.step? segment).bind (get? · path)

def ofFields (entries : List (String × Value)) : Value := .map (KeyMap.ofList entries)

end Value

end FeatureFlow
