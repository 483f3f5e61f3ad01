import FeatureFlow.Execution.Basic
import FeatureFlow.Qualifier

/-! Running statements. A response ends the feature set from within any loop or choice. -/
namespace FeatureFlow

namespace Target

/-- The qualifier comes first, then the specifier. -/
def shape? (t : Target) (v : Value) : Option Value :=
  (match t.qualifier with
    | some q => Qualifier.transformNamed? q v
    | none => some v).map t.specifier.apply

/-- A value that has no shape stays as it is. -/
def shape (t : Target) (v : Value) : Value := (t.shape? v).getD v

theorem shape?_qualified {qualifier : String} {q : Qualifier}
    (h : Qualifier.ofName? qualifier = some q) (name : String) (specifier : Specifier) (v : Value) :
    (Target.mk name (some qualifier) specifier).shape? v =
      (q.transform? v).map specifier.apply := by
  change (Qualifier.transformNamed? qualifier v).map specifier.apply = _
  rw [Qualifier.transformNamed?, h]

theorem shape_qualified {qualifier : String} {q : Qualifier} {v w : Value}
    (h : Qualifier.ofName? qualifier = some q) (hv : q.transform? v = some w) (name : String)
    (specifier : Specifier) :
    (Target.mk name (some qualifier) specifier).shape v = specifier.apply w := by
  rw [shape, shape?_qualified h, hv]
  rfl

end Target

/-- Whether an outcome is a value that has no shape. -/
def Outcome.isShapeless (target : Target) : Outcome → Bool
  | .bind v => (target.shape? v).isNone
  | _ => false

/-- Null fits no regular expression, which then is not even read. -/
def Pattern.fits (p : Pattern) (v : Value) : Except EvalError Bool :=
  match p with
  | .literal w => .ok (w.looseEq v)
  | .range low high => .ok (v.toFloat?.any fun x => low ≤ x && x ≤ high)
  | .regex text => if v.isNull then .ok false else v.matchesPattern text

namespace Exec

variable (registry : Registry)

def actionFor (c : Command) : Except ExecutionError Action :=
  match registry.get? c.action with
  | none => .error (.unknownAction c.action)
  | some a =>
    if a.accepts c.object.preposition then .ok a
    else .error (.unsupportedPreposition c.action c.object.preposition)

/-- How a run goes on after an outcome, and what that binds. Actions that respond end the run also
with a value or with nothing. -/
def conclude (role : Role) (target : Target) (scope : Scope) : Outcome → Flow × Scope
  | .respond r => (.respond r, scope)
  | .bind v =>
    if role = .response then (.respond (.ofLabel target.name (target.shape v)), scope)
    else (.proceed, scope.bind target.name (target.shape v))
  | .assign name v => (.proceed, scope.bind name v)
  | .proceed =>
    if role = .response then (.respond (.ofLabel target.name .null), scope) else (.proceed, scope)

/-- Runs an action for a command, and binds what it says. -/
def act (a : Action) (c : Command) : Exec Flow := do
  let outcome ← perform a c
  ofProcess (Process.modify (·.crash (outcome.isShapeless c.result)))
  modifyGet fun run =>
    let (flow, scope) := conclude a.role c.result run.scope outcome
    (flow, { run with scope })

def runCommand (c : Command) : Exec Flow := do
  if ← holds c.guard then act (← ofExcept id (actionFor registry c)) c else return .proceed

/-- The items to loop over. -/
def itemsOf : Value → Except ExecutionError (List Value)
  | .list items => .ok items
  | .null => .ok []
  | v => .error (.notIterable v.typeName)

/-- Binds the value of a loop and its place, if that has a name. -/
def bindItem (item : String) (index : Option String) (v : Value) (i : Nat) (scope : Scope) :
    Scope :=
  let scope := scope.bind item v
  match index with
  | some name => scope.bind name (.int (Int64.ofNat i))
  | none => scope

/-- Runs a body for each value from the `i`-th on, in a scope of its own. -/
def runItems (base : String) (bind : Value → Nat → Scope → Scope) (filter : Option Expression)
    (body : Exec Flow) (i : Nat) : List Value → Exec Flow
  | [] => return .proceed
  | v :: values => do
    checkDeadline
    let flow ← inChild s!"{base}[{i}]" do
      modifyScope (bind v i)
      if ← holds filter then body else return .proceed
    match flow with
    | .respond r => return .respond r
    | .proceed => runItems base bind filter body (i + 1) values

mutual

def runBlock : List Statement → Exec Flow
  | [] => return .proceed
  | s :: rest => do
    checkDeadline
    match ← runStatement s with
    | .respond r => return .respond r
    | .proceed => runBlock rest

def runStatement : Statement → Exec Flow
  | .act c => runCommand registry c
  | .choose subject cases otherwise => do
    let v ← eval subject
    let name := (← get).scope.name ++ "/match"
    runCases name v (runOtherwise name otherwise) cases
  | .forEach item index collection filter body => do
    let values ← ofExcept id (itemsOf (← eval collection))
    runItems (← get).scope.name (bindItem item index) filter (runBlock body) 0 values

/-- The first case whose pattern fits and whose guard holds is run, and no later one is looked at.
-/
def runCases (name : String) (v : Value) (otherwise : Exec Flow) : List (Case Statement) → Exec Flow
  | [] => otherwise
  | ⟨pattern, guard, body⟩ :: cases => do
    if ← ofExcept .eval (pattern.fits v) then
      let flow ← inChild name do
        if ← holds guard then return some (← runBlock body) else return none
      match flow with
      | some flow => return flow
      | none => runCases name v otherwise cases
    else runCases name v otherwise cases

def runOtherwise (name : String) : Option (List Statement) → Exec Flow
  | none => return .proceed
  | some body => inChild name (runBlock body)

end

end Exec

/-- A run of a feature set, from its first statement to its response or its last one. -/
def FeatureSet.exec (registry : Registry) (f : FeatureSet) : Exec (Option Response) := do
  match ← Exec.runBlock registry f.statements with
  | .respond r => return some r
  | .proceed => return none

structure Run where
  result : Except ExecutionError (Option Response)
  scope : Scope
  outbox : List Emission

/-- Runs a feature set in a scope. -/
def FeatureSet.run (registry : Registry) (f : FeatureSet) (scope : Scope) (deadline : Option Nat) :
    Process Run := do
  let (result, run) ← ((f.exec registry).run).run { scope, deadline }
  return ⟨result, run.scope, run.outbox⟩

end FeatureFlow
