import FeatureFlow.Text.Hex
import FeatureFlow.Text.Utf8

/-! Percent-encoding of text in paths and queries. -/
namespace FeatureFlow.Text

def hexByte? (high low : UInt8) : Option UInt8 := do
  let h ← hexValue? (Char.ofNat high.toNat)
  let l ← hexValue? (Char.ofNat low.toNat)
  return UInt8.ofNat (16 * h + l)

/-- Replaces each well-formed escape by its byte; a malformed one stays as it is. -/
def unescape : List UInt8 → List UInt8
  | [] => []
  | [b] => [b]
  | [b, c] => [b, c]
  | b :: h :: l :: bs =>
    if b = 0x25 then
      match hexByte? h l with
      | some byte => byte :: unescape bs
      | none => b :: unescape (h :: l :: bs)
    else b :: unescape (h :: l :: bs)

/-- The decoded text, or the text itself where its bytes are no UTF-8. -/
def percentDecode (cs : List Char) : List Char := (decode? (unescape (encode cs))).getD cs

end FeatureFlow.Text
