import FeatureFlow.StableSort.Long
import FeatureFlow.Text.Blank
import FeatureFlow.Text.Case
import FeatureFlow.Value.Order

/-! Qualifiers transform a value before it is bound: sorting, totals, letter case and the like. Only
sorting can fail, on items that compare in contradictory ways. -/
namespace FeatureFlow

inductive Qualifier where
  | sort
  | reverse
  | unique
  | sum
  | average
  | least
  | greatest
  | count
  | uppercase
  | lowercase
  | trim
  deriving Repr, DecidableEq

namespace Qualifier

/-- The name's letter case and blanks around it do not matter. -/
def ofName? (name : String) : Option Qualifier :=
  match String.ofList (Text.asciiLower (Text.trim name.toList)) with
  | "sort" | "sorted" => some sort
  | "reverse" | "reversed" => some reverse
  | "unique" | "distinct" => some unique
  | "sum" => some sum
  | "avg" | "average" => some average
  | "min" => some least
  | "max" => some greatest
  | "count" | "length" => some count
  | "uppercase" => some uppercase
  | "lowercase" => some lowercase
  | "trim" => some trim
  | _ => none

def less (a b : Value) : Bool := a.order? b == some .lt

/-- Drops what is loosely equal to an item kept before. -/
def distinct (items : List Value) : List Value :=
  items.foldl (fun kept v => if kept.any (·.looseEq v) then kept else kept ++ [v]) []

def int? : Value → Option Int64
  | .int n => some n
  | _ => none

def floatTotal (items : List Value) : Float := (items.filterMap Value.toFloat?).foldl (· + ·) (-0.0)

/-- Ints alone add up to an int; otherwise the numbers add up to a double. -/
def total (items : List Value) : Value :=
  match items.mapM int? with
  | some ns => .int (ns.foldl (· + ·) 0)
  | none => .float (floatTotal items)

def mean (items : List Value) : Value :=
  match (items.filterMap Value.toFloat?).length with
  | 0 => .null
  | n => .float (floatTotal items / Float.ofNat n)

/-- The first item from which no later one differs in the direction of `keep`. -/
def extreme (keep : Ordering) : List Value → Value
  | [] => .null
  | v :: items => items.foldl (fun best w => if w.order? best == some keep then w else best) v

def size : Value → Nat
  | .list items => items.length
  | .map fields => fields.length
  | .string s => s.length
  | .null => 0
  | _ => 1

def onList (f : List Value → Value) : Value → Value
  | .list items => f items
  | v => v

def onText (f : List Char → List Char) : Value → Value
  | .string s => .string (String.ofList (f s.toList))
  | v => v

/-- Incomparable items count as equal. -/
def sort? (items : List Value) : Option Value := (StableSort.sort less items).map .list

def transform? : Qualifier → Value → Option Value
  | sort, .list items => sort? items
  | sort, v => some v
  | reverse, .string s => some (.string (String.ofList s.toList.reverse))
  | reverse, v => some (onList (.list ∘ List.reverse) v)
  | unique, v => some (onList (.list ∘ distinct) v)
  | sum, v => some (onList total v)
  | average, v => some (onList mean v)
  | least, v => some (onList (extreme .lt) v)
  | greatest, v => some (onList (extreme .gt) v)
  | count, v => some (.int (Int64.ofNat (size v)))
  | uppercase, v => some (onText Text.upper v)
  | lowercase, v => some (onText Text.lower v)
  | trim, v => some (onText Text.trim v)

/-- A name that is no qualifier leaves the value as it is. -/
def transformNamed? (name : String) (v : Value) : Option Value :=
  match ofName? name with
  | some q => q.transform? v
  | none => some v

end Qualifier

end FeatureFlow
