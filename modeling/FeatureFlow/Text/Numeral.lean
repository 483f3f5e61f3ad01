/-! Unsigned numerals: digits of the ASCII range, with an optional leading plus sign. -/
namespace FeatureFlow.Text

def digitsValue (ds : List Char) : Nat := ds.foldl (fun n d => 10 * n + (d.toNat - '0'.toNat)) 0

/-- The value of a numeral, if it is at most `most`. -/
def numeral? (most : Nat) (cs : List Char) : Option Nat :=
  let ds := match cs with
    | '+' :: ds => ds
    | ds => ds
  if ds ≠ [] ∧ ds.all Char.isDigit ∧ digitsValue ds ≤ most then some (digitsValue ds) else none

/-- Indices, limits and timeouts are 64-bit words. -/
def word64? (cs : List Char) : Option Nat := numeral? (UInt64.size - 1) cs

/-- Network ports are 16-bit words. -/
def word16? (cs : List Char) : Option Nat := numeral? (UInt16.size - 1) cs

end FeatureFlow.Text
