/-! Decimals read into a 64-bit word and a power of ten, and their doubles. -/
namespace FeatureFlow.Number

/-- The number `word * 10 ^ exponent`. -/
structure Scaled where
  word : Nat
  exponent : Int
  deriving Repr, DecidableEq

def Scaled.fits (s : Scaled) (digit : Nat) : Bool := 10 * s.word + digit < UInt64.size

/-- Appends digits of a whole number; from the first that does not fit on, they only raise the
exponent. -/
def Scaled.pushWhole : Scaled → List Nat → Scaled
  | s, [] => s
  | s, d :: ds =>
    if s.fits d then pushWhole ⟨10 * s.word + d, s.exponent⟩ ds
    else ⟨s.word, s.exponent + ds.length + 1⟩

/-- Appends digits of a fraction; from the first that does not fit on, they are dropped. -/
def Scaled.pushFraction : Scaled → List Nat → Scaled
  | s, [] => s
  | s, d :: ds => if s.fits d then pushFraction ⟨10 * s.word + d, s.exponent - 1⟩ ds else s

def tenTo (n : Nat) : Float := Float.ofScientific 1 false n

/-- One multiplication or division by a power of ten, two where no double holds the power.
Missing when the number is too large for a double. -/
def Scaled.toFloat? (s : Scaled) : Option Float :=
  let f := (UInt64.ofNat s.word).toFloat
  if s.word = 0 then some f
  else if 0 ≤ s.exponent then
    if s.exponent ≤ 308 then
      let x := f * tenTo s.exponent.toNat
      if x.isFinite then some x else none
    else none
  else
    let n := (-s.exponent).toNat
    if n ≤ 308 then some (f / tenTo n)
    else if n ≤ 616 then some (f / tenTo 308 / tenTo (n - 308))
    else some 0

end FeatureFlow.Number
