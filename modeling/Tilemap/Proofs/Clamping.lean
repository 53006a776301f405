import Mathlib
import Tilemap.Template.Appearance

/-!
# Floats put into a range

A float that is put into a range stays where it is when it is put there again, and it is finite
unless it was no number. No integer becomes a float that is no number: rounding leads to a zero or
to a value with a mantissa, and packing makes of these a zero, a value with a mantissa or an
infinity.
-/

namespace Tilemap.Binary

open Float.Model (Format UnpackedFloat)
open Float.Model.UnpackedFloat (packComponents Sign)

/-! ### Values that are numbers -/

section

variable {format : Format}

/-- Bits are no number only when the exponent has all bits and the mantissa has some. -/
theorem not_isNaN_unpack_packComponents {sign : Sign} {e : BitVec format.exponentBits}
    {m : BitVec format.mantissaBitsWithoutImplicit} (h : e = -1#_ → m = 0#_) :
    ¬ (UnpackedFloat.unpack format (packComponents format sign e m)).isNaN := by
  rw [UnpackedFloat.unpack]
  simp only [UnpackedFloat.unpackMantissa_packComponents,
    UnpackedFloat.unpackExponent_packComponents]
  split
  · rename_i he
    rw [if_pos (h he)]
    exact Bool.false_ne_true
  · split
    · split <;> exact Bool.false_ne_true
    · exact Bool.false_ne_true

theorem not_isNaN_unpack_pack {v : UnpackedFloat} (h : ¬ v.isNaN) :
    ¬ (UnpackedFloat.unpack format (UnpackedFloat.pack format v)).isNaN := by
  have hzero : (0#_ : BitVec format.exponentBits) ≠ -1#_ := by
    have hpow := Nat.one_lt_two_pow (Nat.pos_iff_ne_zero.mp format.he)
    rw [BitVec.neg_one_eq_allOnes, Ne, ← BitVec.toNat_inj, BitVec.toNat_zero, BitVec.toNat_allOnes]
    omega
  cases v with
  | notANumber => exact absurd rfl h
  | infinity sign => exact not_isNaN_unpack_packComponents fun _ => rfl
  | zero sign => exact not_isNaN_unpack_packComponents fun he => absurd he hzero
  | finite sign mantissa exponent hpos =>
    unfold UnpackedFloat.pack
    dsimp only
    generalize (exponent + format.exponentBias +
      format.mantissaBitsWithoutImplicit).toNat = biased
    split
    · exact not_isNaN_unpack_packComponents fun _ => rfl
    · rename_i hbiased
      split
      · refine not_isNaN_unpack_packComponents fun he => ?_
        rw [BitVec.neg_one_eq_allOnes, ← BitVec.toNat_inj, BitVec.toNat_ofNat,
          BitVec.toNat_allOnes, Nat.mod_eq_of_lt (by omega)] at he
        omega
      · exact not_isNaN_unpack_packComponents fun he => absurd he hzero

/-- Rounding never makes a value that is no number. -/
theorem not_isNaN_roundWithAccuracy (sign : Sign) (mantissa : Nat) (exponent : Int)
    (accuracy : UnpackedFloat.Accuracy) :
    ¬ (UnpackedFloat.roundWithAccuracy format sign mantissa exponent accuracy).isNaN := by
  rw [UnpackedFloat.roundWithAccuracy]
  dsimp only
  split <;> exact Bool.false_ne_true

theorem not_isNaN_ofInt (n : Int) : ¬ (UnpackedFloat.ofInt format n).isNaN := by
  rw [UnpackedFloat.ofInt, UnpackedFloat.normalize]
  split
  · exact not_isNaN_roundWithAccuracy _ _ _ _
  · exact Bool.false_ne_true
  · exact not_isNaN_roundWithAccuracy _ _ _ _

end

theorem not_isNaN_ofInt64 (n : Int) : ¬ (ofInt64 n).isNaN :=
  -- The bits are packed twice, once by `pack64` and once by the float made of them.
  not_isNaN_unpack_pack (not_isNaN_unpack_pack (not_isNaN_ofInt n))

theorem not_isNaN_of_isFinite {x : Float} (h : x.isFinite) : ¬ x.isNaN := by
  change (unpack64 x).isFinite at h
  change ¬ (unpack64 x).isNaN
  generalize unpack64 x = v at h
  cases v with
  | notANumber => cases h
  | infinity sign => cases h
  | zero sign => exact Bool.false_ne_true
  | finite sign mantissa exponent hpos => exact Bool.false_ne_true

/-! ### Ranges -/

/-- Two finite floats that are the ends of a range. -/
structure IsRange (low high : Float) : Prop where
  low_finite : low.isFinite
  high_finite : high.isFinite
  low_irrefl : ¬ low < low
  high_irrefl : ¬ high < high
  ordered : ¬ high < low

instance (low high : Float) : Decidable (IsRange low high) :=
  decidable_of_iff
    (low.isFinite ∧ high.isFinite ∧ ¬ low < low ∧ ¬ high < high ∧ ¬ high < low)
    ⟨fun ⟨h₁, h₂, h₃, h₄, h₅⟩ => ⟨h₁, h₂, h₃, h₄, h₅⟩,
      fun ⟨h₁, h₂, h₃, h₄, h₅⟩ => ⟨h₁, h₂, h₃, h₄, h₅⟩⟩

/-- A finite float that is in a range already. -/
structure InRange (low high x : Float) : Prop where
  finite : x.isFinite
  clamp_eq : clamp x low high = x

variable {low high x : Float}

theorem lt_iff_unpack64 {x y : Float} :
    x < y ↔ UnpackedFloat.lt (unpack64 x) (unpack64 y) :=
  decide_eq_true_iff

/-- A finite value lies between the infinities. -/
theorem infinity_lt_and_lt_infinity {v : UnpackedFloat} (h : v.isFinite) :
    UnpackedFloat.lt (.infinity .negative) v ∧ UnpackedFloat.lt v (.infinity .positive) := by
  cases v with
  | notANumber => cases h
  | infinity sign => cases h
  | zero sign => exact ⟨rfl, rfl⟩
  | finite sign mantissa exponent hpos => exact ⟨rfl, rfl⟩

/-- An infinity is beyond one end of every range. -/
theorem isFinite_of_between (h : IsRange low high) (hx : ¬ x.isNaN) (hlow : ¬ x < low)
    (hhigh : ¬ high < x) : x.isFinite := by
  rw [lt_iff_unpack64] at hlow hhigh
  change ¬ (unpack64 x).isNaN at hx
  change (unpack64 x).isFinite
  generalize unpack64 x = v at hx hlow hhigh
  cases v with
  | notANumber => exact absurd rfl hx
  | infinity sign =>
    cases sign with
    | positive => exact absurd (infinity_lt_and_lt_infinity h.high_finite).2 hhigh
    | negative => exact absurd (infinity_lt_and_lt_infinity h.low_finite).1 hlow
  | zero sign => rfl
  | finite sign mantissa exponent hpos => rfl

theorem IsRange.inRange_clamp (h : IsRange low high) (hx : ¬ x.isNaN) :
    InRange low high (clamp x low high) := by
  have hlowEq : clamp low low high = low := by rw [clamp, if_neg h.low_irrefl, if_neg h.ordered]
  have hhighEq : clamp high low high = high := by
    rw [clamp, if_neg h.ordered, if_neg h.high_irrefl]
  by_cases hlow : x < low
  · rw [show clamp x low high = low by rw [clamp, if_pos hlow]]
    exact ⟨h.low_finite, hlowEq⟩
  · by_cases hhigh : high < x
    · rw [show clamp x low high = high by rw [clamp, if_neg hlow, if_pos hhigh]]
      exact ⟨h.high_finite, hhighEq⟩
    · have hsame : clamp x low high = x := by rw [clamp, if_neg hlow, if_neg hhigh]
      rw [hsame]
      exact ⟨isFinite_of_between h hx hlow hhigh, hsame⟩

end Tilemap.Binary
