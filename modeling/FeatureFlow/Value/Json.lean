import FeatureFlow.Json.Printer
import FeatureFlow.Value.Basic

/-! Values as JSON, and the text that shows a value. -/
namespace FeatureFlow.Value

mutual

/-- Whole numbers that no int holds become doubles; of repeated names the last counts. -/
def ofJson : Json → Value
  | .null => .null
  | .bool b => .bool b
  | .number (.int n) => .int n
  | .number n => .float n.toFloat
  | .string s => .string s
  | .array items => .list (ofItems items)
  | .object members => .map (KeyMap.ofList (ofMembers members))

def ofItems : List Json → List Value
  | [] => []
  | j :: items => ofJson j :: ofItems items

def ofMembers : List (String × Json) → List (String × Value)
  | [] => []
  | (name, j) :: members => (name, ofJson j) :: ofMembers members

end

mutual

/-- Doubles that are no numbers become null, and instants their text. -/
def toJson : Value → Json
  | .null => .null
  | .bool b => .bool b
  | .int n => .int n
  | .float x => .float x
  | .string s => .string s
  | .timestamp t => .string t.text
  | .list items => .array (toItems items)
  | .map fields => .object (toMembers fields)

def toItems : List Value → List Json
  | [] => []
  | v :: items => toJson v :: toItems items

def toMembers : List (String × Value) → List (String × Json)
  | [] => []
  | (name, v) :: fields => (name, toJson v) :: toMembers fields

end

def floatText (x : Float) : String :=
  if x.isNaN then "NaN"
  else if x.isInf then if x < 0 then "-inf" else "inf"
  else Number.Layout.plain.render x

/-- Texts stand for themselves, lists and maps are shown as JSON. -/
def display (v : Value) : String :=
  match v with
  | .null => "null"
  | .bool b => if b then "true" else "false"
  | .int n => toString n.toInt
  | .float x => floatText x
  | .string s => s
  | .timestamp t => t.text
  | .list _ | .map _ => v.toJson.render

end FeatureFlow.Value
