/-! Hexadecimal digits, written in lower case and read in either. -/
namespace FeatureFlow.Text

def hexDigit (n : Nat) : Char := Char.ofNat (if n < 10 then n + 0x30 else n + 0x57)

def hexValue? (c : Char) : Option Nat :=
  if c.isDigit then some (c.toNat - '0'.toNat)
  else if 'a' ≤ c ∧ c ≤ 'f' then some (c.toNat - 'a'.toNat + 10)
  else if 'A' ≤ c ∧ c ≤ 'F' then some (c.toNat - 'A'.toNat + 10)
  else none

end FeatureFlow.Text
