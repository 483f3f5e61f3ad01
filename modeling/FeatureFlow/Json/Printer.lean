import FeatureFlow.Json.Basic
import FeatureFlow.Number.Layout
import FeatureFlow.Text.Hex

/-! The compact text of a JSON tree. -/
namespace FeatureFlow.Json

/-- Only the quote, the backslash and control characters are escaped. -/
def escape (c : Char) : List Char :=
  if c = '"' then ['\\', '"']
  else if c = '\\' then ['\\', '\\']
  else if c = '\n' then ['\\', 'n']
  else if c = '\r' then ['\\', 'r']
  else if c = '\t' then ['\\', 't']
  else if c.toNat = 8 then ['\\', 'b']
  else if c.toNat = 12 then ['\\', 'f']
  else if c.toNat < 0x20 then
    ['\\', 'u', '0', '0', Text.hexDigit (c.toNat / 16), Text.hexDigit (c.toNat % 16)]
  else [c]

def quoted (s : String) : String := String.ofList ('"' :: (s.toList.flatMap escape ++ ['"']))

def Number.render : Number → String
  | .int n => toString n.toInt
  | .wide n => toString n.toNat
  | .float x => Number.Layout.json.render x.val

mutual

def render : Json → String
  | .null => "null"
  | .bool b => if b then "true" else "false"
  | .number n => n.render
  | .string s => quoted s
  | .array items => "[" ++ ",".intercalate (renderItems items) ++ "]"
  | .object members => "\x7b" ++ ",".intercalate (renderMembers members) ++ "\x7d"

def renderItems : List Json → List String
  | [] => []
  | j :: items => render j :: renderItems items

def renderMembers : List (String × Json) → List String
  | [] => []
  | (name, j) :: members => (quoted name ++ ":" ++ render j) :: renderMembers members

end

end FeatureFlow.Json
