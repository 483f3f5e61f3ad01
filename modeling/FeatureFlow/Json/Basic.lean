import FeatureFlow.Number.Binary64

/-! JSON documents as trees. Objects keep their members in the order written, repeated names
included. -/
namespace FeatureFlow

/-- A double that is neither infinite nor NaN. -/
structure Finite where
  val : Float
  isFinite : val.isFinite = true

/-- Whole numbers of the signed 64-bit range, those above it up to the unsigned one, and doubles. -/
inductive Json.Number where
  | int (n : Int64)
  | wide (n : UInt64)
  | float (x : Finite)

inductive Json where
  | null
  | bool (b : Bool)
  | number (n : Json.Number)
  | string (s : String)
  | array (items : List Json)
  | object (members : List (String × Json))

instance : Inhabited Json := ⟨.null⟩

namespace Json

def Number.toFloat : Number → Float
  | .int n => Number.ofInt64 n
  | .wide n => n.toFloat
  | .float x => x.val

def int (n : Int64) : Json := .number (.int n)

/-- A double as a number, or null when it is none. -/
def float (x : Float) : Json := if h : x.isFinite = true then .number (.float ⟨x, h⟩) else .null

mutual

/-- How many arrays and objects stand inside one another. -/
def depth : Json → Nat
  | .array items => depthItems items + 1
  | .object members => depthMembers members + 1
  | _ => 0

def depthItems : List Json → Nat
  | [] => 0
  | j :: items => max (depth j) (depthItems items)

def depthMembers : List (String × Json) → Nat
  | [] => 0
  | (_, j) :: members => max (depth j) (depthMembers members)

end

end Json

end FeatureFlow
