import FeatureFlow.Expression.Basic
import FeatureFlow.Number.Binary64
import FeatureFlow.Regex.Parser
import FeatureFlow.Value.Json
import FeatureFlow.Value.Order

/-! Evaluation. Names without a value are null; only arithmetic and malformed patterns fail. -/
namespace FeatureFlow

inductive EvalError where
  | mismatch (op : Arithmetic) (left right : String)
  | negation (type : String)
  | divisionByZero
  | pattern (text : String) (cause : Regex.Malformed)
  deriving Repr, DecidableEq

def EvalError.message : EvalError → String
  | mismatch op left right => s!"cannot apply '{op.symbol}' to {left} and {right}"
  | negation type => s!"cannot negate {type}"
  | divisionByZero => "division by zero"
  | pattern text cause => s!"invalid regular expression '{text}': {cause.message}"

def Comparison.holds (op : Comparison) (l r : Value) : Bool :=
  match op with
  | eq => l.looseEq r
  | ne => !l.looseEq r
  | lt => l.order? r == some .lt
  | le => l.order? r == some .lt || l.order? r == some .eq
  | gt => l.order? r == some .gt
  | ge => l.order? r == some .gt || l.order? r == some .eq

/-- Results wrap around. A quotient that no int holds counts as a division by zero. -/
def Arithmetic.onInts (op : Arithmetic) (a b : Int64) : Except EvalError Int64 :=
  match op with
  | add => .ok (a + b)
  | sub => .ok (a - b)
  | mul => .ok (a * b)
  | div => if b = 0 ∨ (a = Int64.minValue ∧ b = -1) then .error .divisionByZero else .ok (a / b)
  | rem => if b = 0 ∨ (a = Int64.minValue ∧ b = -1) then .error .divisionByZero else .ok (a % b)

def Arithmetic.onFloats (op : Arithmetic) (a b : Float) : Except EvalError Float :=
  match op with
  | add => .ok (a + b)
  | sub => .ok (a - b)
  | mul => .ok (a * b)
  | div => if b == 0 then .error .divisionByZero else .ok (a / b)
  | rem => if b == 0 then .error .divisionByZero else .ok (Number.remainder a b)

/-- Ints stay ints, other pairs of numbers become doubles. -/
def Arithmetic.onNumbers (op : Arithmetic) (l r : Value) : Except EvalError Value :=
  match l, r with
  | .int a, .int b => (op.onInts a b).map .int
  | l, r => match l.toFloat?, r.toFloat? with
    | some a, some b => (op.onFloats a b).map .float
    | _, _ => .error (.mismatch op l.typeName r.typeName)

/-- Besides numbers, two texts or two lists can be added. -/
def Arithmetic.apply (op : Arithmetic) (l r : Value) : Except EvalError Value :=
  match op, l, r with
  | add, .string a, .string b => .ok (.string (a ++ b))
  | add, .list as, .list bs => .ok (.list (as ++ bs))
  | op, l, r => op.onNumbers l r

def Value.holdsItem (l r : Value) : Bool :=
  match l with
  | .list items => items.any (·.looseEq r)
  | .map fields => r.string?.any (KeyMap.contains fields)
  | .string s => Text.contains r.display.toList s.toList
  | _ => false

def compilePattern (text : String) : Except EvalError Regex.Node :=
  (Regex.compile text).mapError (.pattern text)

/-- Null matches no pattern. -/
def Value.matchesPattern (v : Value) (text : String) : Except EvalError Bool := do
  let r ← compilePattern text
  return !v.isNull && r.isMatch v.display.toList

def BinaryOp.apply (op : BinaryOp) (l r : Value) : Except EvalError Value :=
  match op with
  | compare op => .ok (.bool (op.holds l r))
  | arithmetic op => op.apply l r
  | and => .ok (.bool (l.truthy && r.truthy))
  | or => .ok (.bool (l.truthy || r.truthy))
  | concat => .ok (.string (l.display ++ r.display))
  | contains => .ok (.bool (l.holdsItem r))
  | matching => (l.matchesPattern r.display).map .bool

def UnaryOp.apply (op : UnaryOp) (v : Value) : Except EvalError Value :=
  match op, v with
  | not, v => .ok (.bool !v.truthy)
  | negate, .int n => .ok (.int (-n))
  | negate, .float x => .ok (.float (-x))
  | negate, v => .error (.negation v.typeName)

/-- The left operand decides alone, where it can. -/
def BinaryOp.shortcut? (op : BinaryOp) (l : Value) : Option Value :=
  match op with
  | and => if l.truthy then none else some (.bool false)
  | or => if l.truthy then some (.bool true) else none
  | _ => none

namespace Expression

variable (lookup : String → Option Value)

mutual

def eval : Expression → Except EvalError Value
  | .literal v => .ok v
  | .reference name path specifier => match lookup name with
    | none => .ok .null
    | some root => .ok (specifier.apply ((root.get? path).getD .null))
  | .list items => do return .list (← evalItems items)
  | .map entries => do return .map (← evalEntries entries)
  | .unary op operand => do op.apply (← eval operand)
  | .binary op left right => do
    let l ← eval left
    match op.shortcut? l with
    | some v => return v
    | none => op.apply l (← eval right)

def evalItems : List Expression → Except EvalError (List Value)
  | [] => .ok []
  | e :: items => do return (← eval e) :: (← evalItems items)

def evalEntries : List (String × Expression) → Except EvalError (List (String × Value))
  | [] => .ok []
  | (name, e) :: entries => do return (name, ← eval e) :: (← evalEntries entries)

end

end Expression

end FeatureFlow
