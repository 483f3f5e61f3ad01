import FeatureFlow.Text.Blank
import FeatureFlow.Text.Case
import FeatureFlow.Text.Cut
import FeatureFlow.Value.Json

/-! Guards filter events by fields of their payload. A guard text is a list of groups
`path:value,value` with semicolons between them; all groups have to hold. -/
namespace FeatureFlow

/-- The field at `path` has one of the values, which are held in folded form. -/
structure Guard where
  path : List String
  values : List String
  deriving Repr, DecidableEq

inductive GuardError where
  | missingColon (group : String)
  | emptyPath (group : String)
  | emptySegment (group : String)
  | noValues (group : String)
  deriving Repr, DecidableEq

def GuardError.message : GuardError → String
  | missingColon group => s!"guard group '{group}' is missing ':'"
  | emptyPath group => s!"guard group '{group}' has an empty field path"
  | emptySegment group => s!"guard group '{group}' has an empty field segment"
  | noValues group => s!"guard group '{group}' lists no values"

namespace Guard

/-- The form in which values are compared. -/
def fold (cs : List Char) : List Char := Text.lower (Text.trim cs)

def segments (path : List Char) : List String :=
  (path.splitOn '.').map fun part => String.ofList (Text.trim part)

def ofFields (path : String) (values : List String) : Guard :=
  ⟨segments path.toList, values.map fun v => String.ofList (fold v.toList)⟩

/-- Only plain values match; null, lists and maps never do. -/
def accepts (g : Guard) (payload : Value) : Bool :=
  match payload.get? g.path with
  | none | some .null | some (.list _) | some (.map _) => false
  | some v => g.values.contains (String.ofList (fold v.display.toList))

def parseGroup (group : List Char) : Except GuardError Guard :=
  let shown := String.ofList group
  match Text.cut [':'] group with
  | none => .error (.missingColon shown)
  | some (path, values) =>
    if Text.trim path = [] then .error (.emptyPath shown)
    else if (segments (Text.trim path)).contains "" then .error (.emptySegment shown)
    else
      match ((values.splitOn ',').map Text.trim).filter (· ≠ []) with
      | [] => .error (.noValues shown)
      | values => .ok ⟨segments (Text.trim path), values.map fun v => String.ofList (fold v)⟩

def groups (text : List Char) : List (List Char) :=
  ((text.splitOn ';').map Text.trim).filter (· ≠ [])

/-- Blank groups are skipped; the first malformed one is the error. -/
def parse (text : String) : Except GuardError (List Guard) := (groups text.toList).mapM parseGroup

def render (g : Guard) : String := ".".intercalate g.path ++ ":" ++ ",".intercalate g.values

def renderAll (gs : List Guard) : String := ";".intercalate (gs.map render)

def allAccept (gs : List Guard) (payload : Value) : Bool := gs.all (·.accepts payload)

end Guard

end FeatureFlow
