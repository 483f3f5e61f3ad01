/-! Doubles taken apart into a sign, an integer and a power of two, and put together again. -/
namespace FeatureFlow.Number

/-- The number `mantissa * 2 ^ exponent`, or its negative. -/
structure Parts where
  negative : Bool
  mantissa : Nat
  exponent : Int
  deriving Repr, DecidableEq

/-- The bit of the sign, `2 ^ 63`. -/
def signBit : Nat := 0x8000000000000000

/-- The leading bit of a mantissa of full length, `2 ^ 52`; it is not written out. -/
def leadingBit : Nat := 0x10000000000000

/-- The double nearest to a whole number; of two that are equally near, the one with the even
mantissa. -/
def ofInt64 (n : Int64) : Float := .ofModel (.ofInt64 n)

def isNegative (x : Float) : Bool := signBit ≤ x.toBits.toNat

/-- The parts of a finite double. -/
def parts (x : Float) : Parts :=
  let field : Nat := x.toBits.toNat / leadingBit % 2048
  let fraction := x.toBits.toNat % leadingBit
  if field = 0 then ⟨isNegative x, fraction, -1074⟩
  else ⟨isNegative x, fraction + leadingBit, Int.ofNat field - 1075⟩

/-- The double with these parts; the number has to be one. -/
def ofParts (p : Parts) : Float :=
  let sign := if p.negative then signBit else 0
  if p.mantissa = 0 then Float.ofBits (UInt64.ofNat sign)
  else
    let exponent := max (p.exponent + p.mantissa.log2 - 52) (-1074)
    let mantissa :=
      p.mantissa * Nat.pow 2 (p.exponent - exponent).toNat / Nat.pow 2 (exponent - p.exponent).toNat
    let magnitude :=
      if mantissa < leadingBit then mantissa else (exponent + 1074).toNat * leadingBit + mantissa
    Float.ofBits (UInt64.ofNat (sign + magnitude))

/-- The remainder of a division that goes toward zero, exact; it has the sign of `x`. -/
def remainder (x y : Float) : Float :=
  if x.isFinite && !y.isNaN && !(y == 0) then
    if y.isInf then x
    else
      let a := parts x
      let b := parts y
      let exponent := min a.exponent b.exponent
      let align (p : Parts) : Nat := p.mantissa * Nat.pow 2 (p.exponent - exponent).toNat
      ofParts ⟨a.negative, align a % align b, exponent⟩
  else 0 / 0

end FeatureFlow.Number
