import FeatureFlow.Value.Basic

/-! Equality and order of values. -/
namespace FeatureFlow.Value

mutual

/-- Equal kind and contents; doubles compare as numbers, so NaN differs from itself. -/
def equal : Value → Value → Bool
  | .null, .null => true
  | .bool a, .bool b => a == b
  | .int a, .int b => a == b
  | .float a, .float b => a == b
  | .string a, .string b => a == b
  | .timestamp a, .timestamp b => a == b
  | .list as, .list bs => equalItems as bs
  | .map as, .map bs => equalFields as bs
  | _, _ => false

def equalItems : List Value → List Value → Bool
  | [], [] => true
  | a :: as, b :: bs => equal a b && equalItems as bs
  | _, _ => false

def equalFields : List (String × Value) → List (String × Value) → Bool
  | [], [] => true
  | (j, a) :: as, (k, b) :: bs => j == k && equal a b && equalFields as bs
  | _, _ => false

end

/-- Equality under which an int and a double are equal when they are the same number. -/
def looseEq : Value → Value → Bool
  | .int a, .float b | .float b, .int a => Number.ofInt64 a == b
  | a, b => equal a b

def floatOrder? (a b : Float) : Option Ordering :=
  if a < b then some .lt else if a == b then some .eq else if b < a then some .gt else none

/-- Numbers, texts, instants and truth values have an order among themselves. -/
def order? : Value → Value → Option Ordering
  | .int a, .int b => some (compareOfLessAndEq a b)
  | .string a, .string b => some (compareOfLessAndEq a b)
  | .timestamp a, .timestamp b => some (a.order b)
  | .bool a, .bool b => some (compare a.toNat b.toNat)
  | a, b => match a.toFloat?, b.toFloat? with
    | some x, some y => floatOrder? x y
    | _, _ => none

end FeatureFlow.Value
