import FeatureFlow.Guard

/-! Activity labels say what starts a feature set: `Type Handler<guards>`, `repository Observer` or
`field StateObserver<from_to_to>`. Any other label starts nothing by itself. -/
namespace FeatureFlow

structure Transition where
  source : String
  target : String
  deriving Repr, DecidableEq

inductive Activity where
  | event (type : String) (guards : List Guard)
  | repository (name : String)
  | state (field : String) (transition : Option Transition)
  | other
  deriving Repr, DecidableEq

inductive ActivityError where
  | missingSubject (label : String)
  | guard (label : String) (cause : GuardError)
  | transition (text : String)
  deriving Repr, DecidableEq

def ActivityError.message : ActivityError → String
  | missingSubject label => s!"'{label}' names no subject before its trigger keyword"
  | guard label cause => s!"invalid guard in '{label}': {cause.message}"
  | transition text => s!"transition '{text}' must look like <from>_to_<to>"

namespace Transition

def mark : List Char := "_to_".toList

/-- The two states around the first mark, as written. -/
def cut? (label : List Char) : Option Transition :=
  (Text.cut mark label).map fun (source, target) => ⟨String.ofList source, String.ofList target⟩

/-- Both states have to be there; blanks around them do not count. -/
def parse? (text : List Char) : Option Transition :=
  match Text.cut mark text with
  | some (source, target) =>
    let source := Text.trim source
    let target := Text.trim target
    if source ≠ [] ∧ target ≠ [] then some ⟨String.ofList source, String.ofList target⟩ else none
  | none => none

end Transition

namespace Activity

/-- The feature sets of these names are run when the application starts and when it ends. -/
def startName : String := "Application-Start"

@[inherit_doc startName]
def endName : String := "Application-End"

/-- A label before its first angle bracket, and what the bracket holds when the label ends with one.
-/
def splitSuffix (label : List Char) : List Char × Option (List Char) :=
  match Text.cut ['<'] label with
  | some (head, inner) =>
    if label.getLast? = some '>' then (head, some inner.dropLast) else (label, none)
  | none => (label, none)

inductive Keyword where
  | handler
  | observer
  | stateObserver

def Keyword.ofWord? (word : List Char) : Option Keyword :=
  match String.ofList (Text.asciiLower word) with
  | "handler" => some handler
  | "observer" => some observer
  | "stateobserver" => some stateObserver
  | _ => none

def ofKeyword (label : List Char) (subject : String) (suffix : Option (List Char)) :
    Keyword → Except ActivityError Activity
  | .handler => match suffix with
    | none => .ok (event subject [])
    | some text => match Guard.parse (String.ofList text) with
      | .ok guards => .ok (event subject guards)
      | .error cause => .error (.guard (String.ofList label) cause)
  | .observer => .ok (repository subject)
  | .stateObserver => match suffix with
    | none => .ok (state subject none)
    | some text => match Transition.parse? text with
      | some t => .ok (state subject (some t))
      | none => .error (.transition (String.ofList text))

def parse (text : String) : Except ActivityError Activity :=
  let label := Text.trim text.toList
  let (head, suffix) := splitSuffix label
  let words := Text.words head
  match words.getLast?.bind Keyword.ofWord? with
  | none => .ok other
  | some keyword =>
    let subject := List.intercalate [' '] words.dropLast
    if subject = [] then .error (.missingSubject (String.ofList label))
    else ofKeyword label (String.ofList subject) suffix keyword

end Activity

end FeatureFlow
