import FeatureFlow.KeyMap
import FeatureFlow.Text.Percent

/-! Path templates: literal segments and captures between slashes. -/
namespace FeatureFlow

inductive Segment where
  | literal (text : String)
  | capture (name : String)
  deriving Repr, DecidableEq

structure Template where
  text : String
  segments : List Segment
  deriving Repr, DecidableEq

inductive TemplateError where
  | notAbsolute
  | emptyCapture
  | partialCapture (part : String)
  | duplicateCapture (name : String)
  deriving Repr, DecidableEq

def TemplateError.message : TemplateError → String
  | notAbsolute => "must start with '/'"
  | emptyCapture => "empty capture '\x7b\x7d'"
  | partialCapture part => s!"segment '{part}' mixes literal text and a capture"
  | duplicateCapture name => s!"capture '{name}' appears more than once"

namespace Template

/-- What stands between slashes; doubled and closing slashes do not count. -/
def parts (path : List Char) : List (List Char) := (path.splitOn '/').filter (· ≠ [])

def hasBrace (cs : List Char) : Bool := cs.any fun c => c == '{' || c == '}'

/-- What stands between the braces of a part that is wrapped in them. -/
def unwrap? : List Char → Option (List Char)
  | '{' :: rest => if rest.getLast? = some '}' then some rest.dropLast else none
  | _ => none

def parsePart (part : List Char) : Except TemplateError Segment :=
  match unwrap? part with
  | some [] => .error .emptyCapture
  | some name =>
    if hasBrace name then .error (.partialCapture (String.ofList part))
    else .ok (.capture (String.ofList name))
  | none =>
    if hasBrace part then .error (.partialCapture (String.ofList part))
    else .ok (.literal (String.ofList part))

/-- Reads the parts in order; captures already seen may not come again. -/
def parseParts (seen : List String) : List (List Char) → Except TemplateError (List Segment)
  | [] => .ok []
  | part :: rest => do
    match ← parsePart part with
    | .literal text => return .literal text :: (← parseParts seen rest)
    | .capture name =>
      if name ∈ seen then throw (.duplicateCapture name)
      return .capture name :: (← parseParts (name :: seen) rest)

def parse (text : String) : Except TemplateError Template :=
  if text.toList.head? = some '/' then
    (parseParts [] (parts text.toList)).map (⟨text, ·⟩)
  else .error .notAbsolute

/-- The captures of a path with these parts, which are compared in decoded form. -/
def align? : List Segment → List (List Char) → Option (List (String × String))
  | [], [] => some []
  | .literal text :: segments, part :: parts =>
    if String.ofList (Text.percentDecode part) = text then align? segments parts else none
  | .capture name :: segments, part :: parts =>
    (align? segments parts).map ((name, String.ofList (Text.percentDecode part)) :: ·)
  | _, _ => none

def match? (t : Template) (path : String) : Option (KeyMap String) :=
  (align? t.segments (parts path.toList)).map KeyMap.ofList

end Template

end FeatureFlow
