import FeatureFlow.Text.Hex

/-! Universally unique identifiers. -/
namespace FeatureFlow

structure Uuid where
  bits : BitVec 128
  deriving Repr, DecidableEq

namespace Uuid

/-- The `n`-th identifier of a supply: version 4, with `n` in the bits left free. -/
def fresh (n : Nat) : Uuid :=
  ⟨BitVec.ofNat 48 (n >>> 74) ++ 4#4 ++ BitVec.ofNat 12 (n >>> 62) ++ 2#2 ++ BitVec.ofNat 62 n⟩

/-- The hexadecimal digit `i` places from the right. -/
def digit (u : Uuid) (i : Nat) : Char := Text.hexDigit (u.bits.toNat >>> (4 * i) % 16)

/-- Thirty-two digits in groups of 8, 4, 4, 4 and 12. -/
def text (u : Uuid) : String :=
  let ds := (List.range 32).reverse.map u.digit
  String.ofList (ds.take 8 ++ '-' :: (ds.drop 8).take 4 ++ '-' :: (ds.drop 12).take 4 ++
    '-' :: (ds.drop 16).take 4 ++ '-' :: ds.drop 20)

def ofDigits? (ds : List Char) : Option Uuid := do
  let values ← ds.mapM Text.hexValue?
  if values.length = 32 then return ⟨BitVec.ofNat 128
    (values.foldl (fun n d => 16 * n + d) 0)⟩ else none

/-- Hyphens stand at the places `text` puts them. -/
def ofGroups? (cs : List Char) : Option Uuid :=
  if cs.length = 36 ∧ [8, 13, 18, 23].all (fun i => cs[i]? = some '-') then
    ofDigits? (cs.take 8 ++ (cs.drop 9).take 4 ++ (cs.drop 14).take 4 ++ (cs.drop 19).take 4 ++
      cs.drop 24)
  else none

/-- Bare digits, or groups: alone, in braces or after `urn:uuid:`. -/
def read? (text : String) : Option Uuid :=
  let cs := text.toList
  if cs.length = 32 then ofDigits? cs
  else if cs.length = 36 then ofGroups? cs
  else if cs.length = 38 ∧ cs.head? = some '{' ∧
    cs.getLast? = some '}' then ofGroups? (cs.drop 1).dropLast
  else if cs.length = 45 ∧ "urn:uuid:".toList.isPrefixOf cs then ofGroups? (cs.drop 9)
  else none

end Uuid

end FeatureFlow
