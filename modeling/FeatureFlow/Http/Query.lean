import FeatureFlow.KeyMap
import FeatureFlow.Text.Cut
import FeatureFlow.Text.Percent

/-! Query strings: pairs `name=value` joined by ampersands. -/
namespace FeatureFlow.Query

/-- A plus sign stands for a blank. -/
def decode (cs : List Char) : String :=
  String.ofList (Text.percentDecode (cs.map fun c => if c = '+' then ' ' else c))

/-- A pair without an equals sign has the empty value. -/
def parsePair (cs : List Char) : String × String :=
  match Text.cut ['='] cs with
  | some (name, value) => (decode name, decode value)
  | none => (decode cs, "")

def pairs (text : String) : List (String × String) :=
  (((text.toList.dropWhile (· = '?')).splitOn '&').filter (· ≠ [])).map parsePair

/-- Of several pairs with one name the last counts. -/
def parse (text : String) : KeyMap String := KeyMap.ofList (pairs text)

end FeatureFlow.Query
