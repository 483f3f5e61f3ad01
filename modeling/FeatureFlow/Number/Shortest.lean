import FeatureFlow.Number.Binary64

/-! The shortest decimal that reads back as a given double. -/
namespace FeatureFlow.Number

/-- The number `digits * 10 ^ exponent`. -/
structure Decimal where
  digits : Nat
  exponent : Int
  deriving Repr, DecidableEq

/-- A positive double with the ends of the interval of numbers that round to it. All three count
quarters of `2 ^ exponent`; the ends belong to the interval when `closed`. -/
structure Neighbourhood where
  low : Nat
  value : Nat
  high : Nat
  exponent : Int
  closed : Bool

/-- Below a power of two the doubles lie twice as close. -/
def neighbourhood (mantissa : Nat) (exponent : Int) : Neighbourhood :=
  let below := if mantissa = leadingBit ∧ -1074 < exponent then 1 else 2
  ⟨4 * mantissa - below, 4 * mantissa, 4 * mantissa + 2, exponent - 2, mantissa % 2 = 0⟩

/-- A count of units of `2 ^ exponent` as a fraction of `10 ^ scale`: numerator and denominator. -/
def inUnits (count : Nat) (exponent scale : Int) : Nat × Nat :=
  (count * Nat.pow 2 exponent.toNat * Nat.pow 10 (-scale).toNat,
    Nat.pow 2 (-exponent).toNat * Nat.pow 10 scale.toNat)

def Neighbourhood.holds (n : Neighbourhood) (scale : Int) (d : Nat) : Bool :=
  let (low, unit) := inUnits n.low n.exponent scale
  let (high, _) := inUnits n.high n.exponent scale
  if n.closed then low ≤ d * unit && d * unit ≤ high else low < d * unit && d * unit < high

/-- Which of two equally near decimals is taken. -/
inductive Tie where
  | larger
  | even
  deriving Repr, DecidableEq

def Tie.goesDown (t : Tie) (down : Nat) : Bool :=
  match t with
  | larger => false
  | even => down % 2 = 0

/-- The nearest multiple of `10 ^ scale` in the interval. -/
def Neighbourhood.onGrid? (n : Neighbourhood) (tie : Tie) (scale : Int) : Option Nat :=
  let (value, unit) := inUnits n.value n.exponent scale
  let down := value / unit
  match n.holds scale down, n.holds scale (down + 1) with
  | true, true =>
    let twice := 2 * (value % unit)
    if twice < unit ∨ (twice = unit ∧ tie.goesDown down) then some down else some (down + 1)
  | true, false => some down
  | false, true => some (down + 1)
  | false, false => none

/-- The exponent of the leading decimal digit. -/
def leading (count : Nat) (exponent : Int) : Int :=
  let guess := ((count.log2 : Int) + exponent) * 30103 / 100000
  let reaches (scale : Int) : Bool := let (n, d) := inUnits count exponent scale; d ≤ n
  if reaches (guess + 1) then guess + 1 else if reaches guess then guess else guess - 1

/-- Tries grids of ever more digits. Seventeen tell all doubles apart. -/
def Neighbourhood.search (n : Neighbourhood) (tie : Tie) (top : Int) : Nat → Nat → Decimal
  | 0, _ => ⟨0, 0⟩
  | fuel + 1, length =>
    let scale := top - length + 1
    match n.onGrid? tie scale with
    | some d => ⟨d, scale⟩
    | none => search n tie top fuel (length + 1)

def stripZeros : Nat → Decimal → Decimal
  | 0, d => d
  | fuel + 1, d =>
    if d.digits % 10 = 0 then stripZeros fuel ⟨d.digits / 10, d.exponent + 1⟩ else d

/-- The shortest decimal of a finite double's magnitude, without trailing zeros. -/
def shortest (tie : Tie) (x : Float) : Decimal :=
  let p := parts x
  if p.mantissa = 0 then ⟨0, 0⟩
  else
    let n := neighbourhood p.mantissa p.exponent
    stripZeros 18 (n.search tie (leading n.value n.exponent) 18 1)

end FeatureFlow.Number
