import FeatureFlow.Specifier

/-! Expressions over named values. -/
namespace FeatureFlow

inductive UnaryOp where
  | not
  | negate
  deriving Repr, DecidableEq

inductive Comparison where
  | eq
  | ne
  | lt
  | le
  | gt
  | ge
  deriving Repr, DecidableEq

inductive Arithmetic where
  | add
  | sub
  | mul
  | div
  | rem
  deriving Repr, DecidableEq

inductive BinaryOp where
  | compare (op : Comparison)
  | arithmetic (op : Arithmetic)
  | and
  | or
  | concat
  | contains
  | matching
  deriving Repr, DecidableEq

inductive Expression where
  | literal (v : Value)
  /-- The value of a name, followed along a path and then reduced. -/
  | reference (name : String) (path : List String) (specifier : Specifier)
  | list (items : List Expression)
  | map (entries : List (String × Expression))
  | unary (op : UnaryOp) (operand : Expression)
  | binary (op : BinaryOp) (left right : Expression)

instance : Inhabited Expression := ⟨.literal .null⟩

def UnaryOp.symbol : UnaryOp → String
  | not => "not"
  | negate => "-"

def Comparison.symbol : Comparison → String
  | eq => "=="
  | ne => "!="
  | lt => "<"
  | le => "<="
  | gt => ">"
  | ge => ">="

def Arithmetic.symbol : Arithmetic → String
  | add => "+"
  | sub => "-"
  | mul => "*"
  | div => "/"
  | rem => "%"

def BinaryOp.symbol : BinaryOp → String
  | compare op => op.symbol
  | arithmetic op => op.symbol
  | and => "and"
  | or => "or"
  | concat => "++"
  | contains => "contains"
  | matching => "matches"

def UnaryOp.ofSymbol? : String → Option UnaryOp
  | "not" => some not
  | "-" => some negate
  | _ => none

def BinaryOp.ofSymbol? : String → Option BinaryOp
  | "==" => some (compare .eq)
  | "!=" => some (compare .ne)
  | "<" => some (compare .lt)
  | "<=" => some (compare .le)
  | ">" => some (compare .gt)
  | ">=" => some (compare .ge)
  | "+" => some (arithmetic .add)
  | "-" => some (arithmetic .sub)
  | "*" => some (arithmetic .mul)
  | "/" => some (arithmetic .div)
  | "%" => some (arithmetic .rem)
  | "and" => some and
  | "or" => some or
  | "++" => some concat
  | "contains" => some contains
  | "matches" => some matching
  | _ => none

theorem UnaryOp.ofSymbol?_symbol (op : UnaryOp) : ofSymbol? op.symbol = some op := by
  cases op <;> simp [symbol, ofSymbol?]

theorem BinaryOp.ofSymbol?_symbol (op : BinaryOp) : ofSymbol? op.symbol = some op := by
  cases op with
  | compare op => cases op <;> simp [symbol, Comparison.symbol, ofSymbol?]
  | arithmetic op => cases op <;> simp [symbol, Arithmetic.symbol, ofSymbol?]
  | _ => simp [symbol, ofSymbol?]

namespace Expression

def named (name : String) : Expression := .reference name [] .whole

/-- A field of a named value, its path written with dots. -/
def field (name path : String) : Expression :=
  .reference name ((path.toList.splitOn '.').map String.ofList) .whole

end Expression

end FeatureFlow
