import FeatureFlow.Json.Basic

/-! Whole numbers of 64 bits as doubles. They lie far below the largest double, so the double
nearest to one is finite. -/
namespace FeatureFlow.Number

open Float.Model Float.Model.UnpackedFloat

theorem log2_le_of_lt {n k : Nat} (h : n < Nat.pow 2 (k + 1)) : n.log2 ≤ k := by
  by_cases hn : n = 0
  · subst hn
    exact Nat.zero_le k
  · exact Nat.le_of_lt_succ ((Nat.log2_lt hn).mpr h)

theorem targetExponent_binary64 (t : Int) :
    Format.binary64.targetExponent t = max (t - 53) (-1074) := rfl

theorem exponent_shiftToTargetExponent (m : Nat) (e : Int) :
    (shiftToTargetExponent .binary64 m e .exact).2 = max e (max (m.log2 + 1 + e - 53) (-1074)) := by
  change e + ((Format.binary64.targetExponent (totalExponent m e) - e).toNat : Int) = _
  rw [targetExponent_binary64, totalExponent]
  omega

/-- A shift to the right makes no mantissa larger. -/
theorem mantissa_shift_le (em : ExtendedMantissa) (k : Nat) :
    (em >>> k).mantissa ≤ em.mantissa := by
  induction k with
  | zero => exact Nat.le_refl _
  | succ k ih =>
    have hstep : (em >>> (k + 1)).mantissa = (em >>> k).mantissa / 2 := rfl
    rw [hstep]
    omega

theorem roundedMantissa_le (em : ExtendedMantissa) : em.roundedMantissa ≤ em.mantissa + 1 := by
  obtain ⟨m, roundBit, stickyBit⟩ := em
  cases roundBit <;> cases stickyBit <;>
    simp only [ExtendedMantissa.roundedMantissa, ExtendedMantissa.accuracy,
      Accuracy.roundToNearestEven] <;> omega

/-- Numbers whose exponent is small enough for a double. -/
def Fits : UnpackedFloat → Prop
  | .zero _ => True
  | .finite _ _ exponent _ => exponent ≤ 971
  | _ => False

/-- The bounds leave room for a carry. -/
theorem fits_roundWithAccuracy {sign : Sign} {m : Nat} {e : Int} (hm : m < Nat.pow 2 128)
    (he : e ≤ 64) :
    Fits (roundWithAccuracy .binary64 sign m e .exact) := by
  let first := shiftToTargetExponent .binary64 m e .exact
  let last := shiftToTargetExponent .binary64 first.1.roundedMantissa first.2 .exact
  have hlog : m.log2 ≤ 127 := log2_le_of_lt hm
  have hfirst : first.2 = max e (max (m.log2 + 1 + e - 53) (-1074)) :=
    exponent_shiftToTargetExponent m e
  have hrounded : first.1.roundedMantissa.log2 ≤ 128 := by
    have hshift : first.1.mantissa ≤ m := mantissa_shift_le _ _
    have hle : first.1.roundedMantissa ≤ Nat.pow 2 128 :=
      Nat.le_trans (roundedMantissa_le first.1) (by omega)
    exact log2_le_of_lt (Nat.lt_of_le_of_lt hle (by decide))
  have hlast : last.2 = max first.2 (max (first.1.roundedMantissa.log2 + 1 + first.2 - 53)
      (-1074)) :=
    exponent_shiftToTargetExponent _ _
  change Fits (if h : last.1.mantissa = 0 then .zero sign
    else .finite sign last.1.mantissa last.2 (Nat.pos_of_ne_zero h))
  by_cases hzero : last.1.mantissa = 0
  · rw [dif_pos hzero]
    trivial
  · rw [dif_neg hzero]
    change last.2 ≤ 971
    omega

theorem fits_round {sign : Sign} {m : Nat} (hm : m < Nat.pow 2 64) :
    Fits (round .binary64 sign m 0) := by
  have hlog : m.log2 ≤ 63 := log2_le_of_lt hm
  have hshift : (0 - Format.binary64.targetExponent (totalExponent m 0)).toNat ≤ 52 := by
    rw [targetExponent_binary64, totalExponent]
    omega
  apply fits_roundWithAccuracy
  · rw [Nat.shiftLeft_eq]
    calc m * 2 ^ _ ≤ m * Nat.pow 2 52 :=
      Nat.mul_le_mul_left m (Nat.pow_le_pow_right (by decide) hshift)
      _ < Nat.pow 2 64 * Nat.pow 2 52 := Nat.mul_lt_mul_of_pos_right hm (by decide)
      _ ≤ Nat.pow 2 128 := by decide
  · omega

theorem fits_ofInt {n : Int} (hn : n.natAbs < Nat.pow 2 64) :
    Fits (UnpackedFloat.ofInt .binary64 n) := by
  unfold UnpackedFloat.ofInt UnpackedFloat.normalize
  split
  · exact fits_round (by omega)
  · trivial
  · exact fits_round (by omega)

/-- Only an exponent of all ones is no number. -/
theorem isFinite_unpack {b : BitVec Format.binary64.numBits} (h : unpackExponent b ≠ -1#_) :
    (UnpackedFloat.unpack .binary64 b).isFinite = true := by
  unfold UnpackedFloat.unpack
  rw [if_neg h]
  by_cases hexponent : unpackExponent b = 0#_
  · rw [if_pos hexponent]
    by_cases hmantissa : unpackMantissa b = 0#_
    · rw [dif_pos hmantissa]
      rfl
    · rw [dif_neg hmantissa]
      rfl
  · rw [if_neg hexponent]
    rfl

theorem pack_finite (sign : Sign) (m : Nat) (e : Int) (hm : 0 < m) :
    UnpackedFloat.pack .binary64 (.finite sign m e hm) =
      if 2048 ≤ (e + 1023 + 52).toNat + 1 then packedInfinity .binary64 sign
      else if m.log2 + 1 = 53 then
        packComponents .binary64 sign (BitVec.ofNat 11 (e + 1023 + 52).toNat) (BitVec.ofNat 52 m)
      else packComponents .binary64 sign 0#11 (BitVec.ofNat 52 m) := rfl

theorem isFinite_pack {f : UnpackedFloat} (h : Fits f) : (Float.Model.pack f).isFinite = true := by
  apply isFinite_unpack
  change unpackExponent (UnpackedFloat.pack .binary64 f) ≠ _
  cases f with
  | infinity sign => exact h.elim
  | notANumber => exact h.elim
  | zero sign =>
    change unpackExponent (packComponents .binary64 sign 0#11 0#52) ≠ _
    rw [unpackExponent_packComponents]
    decide
  | finite sign m e hm =>
    have he : e ≤ 971 := h
    have hsmall : ¬ 2048 ≤ (e + 1023 + 52).toNat + 1 := by omega
    rw [pack_finite, if_neg hsmall]
    by_cases hnormal : m.log2 + 1 = 53
    · rw [if_pos hnormal, unpackExponent_packComponents]
      intro hones
      have hvalue : (e + 1023 + 52).toNat % 2048 = 2047 := congrArg BitVec.toNat hones
      omega
    · rw [if_neg hnormal, unpackExponent_packComponents]
      decide

/-- The double nearest to a whole number of 64 bits is finite. -/
theorem isFinite_ofInt {n : Int} (hn : n.natAbs < Nat.pow 2 64) :
    (Float.ofModel (Float.Model.pack (UnpackedFloat.ofInt .binary64 n))).isFinite = true :=
  isFinite_pack (fits_ofInt hn)

theorem isFinite_ofInt64 (n : Int64) : (ofInt64 n).isFinite = true := by
  have hlow := n.le_toInt
  have hhigh := n.toInt_lt
  apply isFinite_ofInt
  have hpow : Nat.pow 2 64 = 18446744073709551616 := rfl
  omega

theorem isFinite_toFloat (n : UInt64) : n.toFloat.isFinite = true := by
  have hlt : (n.toNat : Int).natAbs < Nat.pow 2 64 := n.toNat_lt
  exact isFinite_ofInt hlt

end FeatureFlow.Number

namespace FeatureFlow

theorem Json.Number.isFinite_toFloat (n : Json.Number) : n.toFloat.isFinite = true := by
  cases n with
  | int n => exact Number.isFinite_ofInt64 n
  | wide n => exact FeatureFlow.Number.isFinite_toFloat n
  | float x => exact x.isFinite

end FeatureFlow
