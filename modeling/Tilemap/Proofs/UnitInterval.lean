import Mathlib
import Tilemap.Layer.Grid
import Tilemap.Template.Appearance

/-!
# Floats between zero and one

A float that is put between zero and one is there afterwards, or it was no number. Products of
floats from there and floats rounded to fewer bits are still there: a mantissa and an exponent that
stand for at most one never stand for more in any step of rounding, because one is a float of
every precision.

The steps are followed for any format with at least two exponent bits, where one is neither
infinite nor subnormal.
-/

namespace Tilemap.Binary

open Float.Model (Format UnpackedFloat totalExponent)
open Float.Model.UnpackedFloat (ExtendedMantissa Sign packComponents unpackSign)

/-! ### Values -/

/-- A mantissa and an exponent that stand for at most one, with an exponent that is at most that
of one in the format. -/
structure AtMostOne (format : Format) (mantissa : Nat) (exponent : Int) : Prop where
  exponent_le : exponent ≤ -format.mantissaBitsWithoutImplicit
  mantissa_le : mantissa ≤ 2 ^ (-exponent).toNat

/-- A value from zero to one, zeros of both signs included. -/
def InUnit (format : Format) : UnpackedFloat → Prop
  | .zero _ => True
  | .finite .positive mantissa exponent _ => AtMostOne format mantissa exponent
  | _ => False

variable {format : Format} {mantissa : Nat} {exponent : Int}

/-! ### Rounding -/

/-- An extended mantissa that stands for at most `2 ^ n`. -/
def BoundedBy (n : Nat) (em : ExtendedMantissa) : Prop :=
  em.mantissa < 2 ^ n ∨ em = ⟨2 ^ n, false, false⟩

theorem BoundedBy.mantissa_le {n : Nat} {em : ExtendedMantissa} (h : BoundedBy n em) :
    em.mantissa ≤ 2 ^ n := by
  rcases h with h | rfl
  · exact Nat.le_of_lt h
  · exact Nat.le_refl _

theorem BoundedBy.shiftRightOne {n : Nat} {em : ExtendedMantissa} (h : BoundedBy (n + 1) em) :
    BoundedBy n em.shiftRightOne := by
  rcases h with h | rfl
  · refine .inl ?_
    rw [Nat.pow_succ] at h
    exact Nat.div_lt_of_lt_mul (Nat.mul_comm _ _ ▸ h)
  · refine .inr ?_
    simp [ExtendedMantissa.shiftRightOne, Nat.pow_succ]

theorem BoundedBy.shiftRight {n s : Nat} {em : ExtendedMantissa} (h : BoundedBy (n + s) em) :
    BoundedBy n (em >>> s) := by
  induction s generalizing n with
  | zero => exact h
  | succ s ih => exact (ih (by rwa [Nat.add_assoc, Nat.add_comm 1])).shiftRightOne

/-- Rounding adds to a mantissa only what it lacks to a power of two. -/
theorem BoundedBy.roundedMantissa_le {n : Nat} {em : ExtendedMantissa} (h : BoundedBy n em) :
    em.roundedMantissa ≤ 2 ^ n := by
  rcases h with h | rfl
  · obtain ⟨m, roundBit, stickyBit⟩ := em
    have hm : m + 1 ≤ 2 ^ n := h
    cases roundBit <;> cases stickyBit <;>
      simp only [ExtendedMantissa.roundedMantissa, ExtendedMantissa.accuracy,
        UnpackedFloat.Accuracy.roundToNearestEven] <;> omega
  · exact Nat.le_refl _

theorem log2_le_of_le_two_pow {m n : Nat} (h : m ≤ 2 ^ n) : m.log2 ≤ n := by
  by_cases hm : m = 0
  · rw [hm, Nat.log2_zero]
    exact Nat.zero_le n
  · exact (Nat.pow_le_pow_iff_right (by decide)).mp (Nat.le_trans (Nat.log2_self_le hm) h)

theorem two_le_two_pow (hformat : 2 ≤ format.exponentBits) :
    2 ≤ 2 ^ (format.exponentBits - 1) :=
  Nat.pow_le_pow_right (n := 2) (i := 1) (by decide) (by omega)

/-- What stands for at most one is shifted no further than to the exponent of one. -/
theorem AtMostOne.targetExponent_le (h : AtMostOne format mantissa exponent)
    (hformat : 2 ≤ format.exponentBits) :
    format.targetExponent (totalExponent mantissa exponent) ≤
      -format.mantissaBitsWithoutImplicit := by
  have hlog : mantissa.log2 ≤ (-exponent).toNat := log2_le_of_le_two_pow h.mantissa_le
  have hexponent := h.exponent_le
  have hpow := two_le_two_pow hformat
  have hcast : (2 : Int) ^ (format.exponentBits - 1) = (2 ^ (format.exponentBits - 1) : Nat) :=
    (Int.natCast_pow 2 _).symm
  simp only [Format.targetExponent, Format.minExponent, totalExponent, Format.mantissaBits, hcast]
  omega

/-- A value of at most one keeps its bound when it is shifted to the exponent of the format. -/
theorem AtMostOne.shiftToTargetExponent (h : AtMostOne format mantissa exponent)
    (hformat : 2 ≤ format.exponentBits) {em : ExtendedMantissa} {target : Int}
    (hshift : UnpackedFloat.shiftToTargetExponent format mantissa exponent .exact = (em, target)) :
    target ≤ -format.mantissaBitsWithoutImplicit ∧ BoundedBy (-target).toNat em := by
  have htarget := h.targetExponent_le hformat
  have hexponent := h.exponent_le
  rw [UnpackedFloat.shiftToTargetExponent, UnpackedFloat.shiftToExponent] at hshift
  generalize format.targetExponent (totalExponent mantissa exponent) = t at htarget hshift
  obtain ⟨rfl, rfl⟩ := Prod.mk.inj hshift
  refine ⟨by omega, BoundedBy.shiftRight ?_⟩
  have hbits : (-(exponent + (t - exponent).toNat)).toNat + (t - exponent).toNat =
      (-exponent).toNat := by omega
  rw [hbits]
  rcases Nat.lt_or_eq_of_le h.mantissa_le with hlt | heq
  · exact .inl hlt
  · exact .inr (by rw [← heq]; rfl)

/-- Bits that are dropped lead to no value above one. -/
theorem inUnit_roundWithAccuracy (h : AtMostOne format mantissa exponent)
    (hformat : 2 ≤ format.exponentBits) :
    InUnit format (.roundWithAccuracy format .positive mantissa exponent .exact) := by
  rw [UnpackedFloat.roundWithAccuracy]
  rcases hfirst : UnpackedFloat.shiftToTargetExponent format mantissa exponent .exact with ⟨em₁, e₁⟩
  obtain ⟨hle₁, hbound₁⟩ := h.shiftToTargetExponent hformat hfirst
  have hrounded : AtMostOne format em₁.roundedMantissa e₁ := ⟨hle₁, hbound₁.roundedMantissa_le⟩
  rcases hsecond : UnpackedFloat.shiftToTargetExponent format em₁.roundedMantissa e₁ .exact with
    ⟨em₂, e₂⟩
  obtain ⟨hle₂, hbound₂⟩ := hrounded.shiftToTargetExponent hformat hsecond
  dsimp only
  rw [hsecond]
  split
  · trivial
  · exact ⟨hle₂, hbound₂.mantissa_le⟩

/-- Rounding a value of at most one gives at most one, as one is in the format. -/
theorem inUnit_round (h : AtMostOne format mantissa exponent)
    (hformat : 2 ≤ format.exponentBits) :
    InUnit format (.round format .positive mantissa exponent) := by
  rw [UnpackedFloat.round, UnpackedFloat.decreaseExponent]
  refine inUnit_roundWithAccuracy ⟨?_, ?_⟩ hformat
  all_goals
    generalize (exponent - format.targetExponent (totalExponent mantissa exponent)).toNat = d
  · have hexponent := h.exponent_le
    omega
  · have hbits : (-(exponent - d)).toNat = (-exponent).toNat + d := by
      have hexponent := h.exponent_le
      omega
    rw [hbits, Nat.pow_add, Nat.shiftLeft_eq]
    exact Nat.mul_le_mul_right _ h.mantissa_le

/-- A value from zero to one is rounded to one of fewer bits from there. -/
theorem InUnit.convert {wide : Format} {v : UnpackedFloat} (h : InUnit wide v)
    (hwide : format.mantissaBitsWithoutImplicit ≤ wide.mantissaBitsWithoutImplicit)
    (hformat : 2 ≤ format.exponentBits) : InUnit format (convert format v) := by
  match v, h with
  | .zero _, _ => trivial
  | .finite .positive mantissa exponent _, h =>
    have hexponent := h.exponent_le
    exact inUnit_round ⟨by omega, h.mantissa_le⟩ hformat

/-- The product of two values from zero to one is one from there. -/
theorem InUnit.mul {v w : UnpackedFloat} (hv : InUnit format v) (hw : InUnit format w)
    (hformat : 2 ≤ format.exponentBits) : InUnit format (.mul format v w) := by
  match v, w, hv, hw with
  | .zero _, .zero _, _, _ => trivial
  | .zero _, .finite .positive .., _, _ => trivial
  | .finite .positive .., .zero _, _, _ => trivial
  | .finite .positive m₁ e₁ _, .finite .positive m₂ e₂ _, hv, hw =>
    have hv' := hv.exponent_le
    have hw' := hw.exponent_le
    refine inUnit_roundWithAccuracy ⟨by omega, ?_⟩ hformat
    have hbits : (-(e₁ + e₂)).toNat = (-e₁).toNat + (-e₂).toNat := by omega
    rw [hbits, Nat.pow_add]
    exact Nat.mul_le_mul hv.mantissa_le hw.mantissa_le

/-! ### Packing -/

/-- The bias is positive and leaves room above it. -/
theorem exponentBias_lt (hformat : 2 ≤ format.exponentBits) :
    0 < format.exponentBias ∧ format.exponentBias + 1 < 2 ^ format.exponentBits := by
  have hpow := two_le_two_pow hformat
  have hdouble : 2 ^ format.exponentBits = 2 ^ (format.exponentBits - 1) * 2 := by
    rw [← Nat.pow_succ]
    congr 1
    omega
  rw [Format.exponentBias]
  omega

/-- A mantissa has the bits of the format and the implicit one. -/
theorem mantissa_lt_of_unpack {b : BitVec format.numBits} {sign : Sign} {hpos : 0 < mantissa}
    (h : UnpackedFloat.unpack format b = .finite sign mantissa exponent hpos) :
    mantissa < 2 ^ (format.mantissaBitsWithoutImplicit + 1) := by
  rw [UnpackedFloat.unpack] at h
  split at h
  · split at h <;> cases h
  · split at h
    · split at h
      · cases h
      · cases h
        exact Nat.lt_trans (BitVec.isLt _) (Nat.pow_lt_pow_right (by decide) (Nat.lt_succ_self _))
    · cases h
      exact Nat.add_comm 1 _ ▸ BitVec.isLt _

theorem unpackSign_packComponents {sign : Sign} {e : BitVec format.exponentBits}
    {m : BitVec format.mantissaBitsWithoutImplicit} :
    unpackSign (packComponents format sign e m) = sign.toBitVec := by
  ext i hi
  obtain rfl : i = 0 := by omega
  simp [unpackSign, packComponents, BitVec.getLsbD_append,
    BitVec.getElem_append]

theorem ne_neg_one_of_toNat_le {e : BitVec format.exponentBits}
    (he : e.toNat ≤ format.exponentBias) (hformat : 2 ≤ format.exponentBits) : e ≠ -1#_ := by
  rintro rfl
  have hbias := exponentBias_lt hformat
  rw [BitVec.neg_one_eq_allOnes, BitVec.toNat_allOnes] at he
  omega

/-- The fields of a value from zero to one: the exponent is at most the bias, and when it is the
bias there is nothing but the implicit bit. -/
theorem inUnit_unpack_packComponents {e : BitVec format.exponentBits}
    {m : BitVec format.mantissaBitsWithoutImplicit} (he : e.toNat ≤ format.exponentBias)
    (hm : e.toNat = format.exponentBias → m = 0#_) (hformat : 2 ≤ format.exponentBits) :
    InUnit format (.unpack format (packComponents format .positive e m)) := by
  have hbias := exponentBias_lt hformat
  have hfinite := ne_neg_one_of_toNat_le he hformat
  rw [UnpackedFloat.unpack]
  simp only [UnpackedFloat.unpackMantissa_packComponents,
    UnpackedFloat.unpackExponent_packComponents, unpackSign_packComponents, if_neg hfinite]
  split
  · rename_i hzero
    rw [hzero, BitVec.toNat_zero]
    split
    · trivial
    · refine ⟨by omega, Nat.le_trans (Nat.le_of_lt m.isLt) ?_⟩
      exact Nat.pow_le_pow_right (by decide) (by omega)
  · refine ⟨by omega, ?_⟩
    rcases Nat.lt_or_eq_of_le he with hlt | heq
    · refine Nat.le_trans (Nat.le_of_lt (BitVec.isLt _)) ?_
      exact Nat.pow_le_pow_right (by decide) (by omega)
    · have hbits : (-((format.exponentBias : Int) - (format.exponentBias +
          format.mantissaBitsWithoutImplicit))).toNat = format.mantissaBitsWithoutImplicit := by
        omega
      rw [hm heq, heq, hbits]
      simp [BitVec.toNat_append, Nat.one_shiftLeft]

/-- A value from zero to one is packed to the bits of a value from there. -/
theorem InUnit.unpack_pack {v : UnpackedFloat} (h : InUnit format v)
    (hformat : 2 ≤ format.exponentBits) :
    InUnit format (UnpackedFloat.unpack format (UnpackedFloat.pack format v)) := by
  have hbias := exponentBias_lt hformat
  match v, h with
  | .zero sign, _ =>
    have hfinite : (0#_ : BitVec format.exponentBits) ≠ -1#_ :=
      ne_neg_one_of_toNat_le (by simp) hformat
    simp [UnpackedFloat.pack, UnpackedFloat.packedZero, UnpackedFloat.unpack, hfinite, InUnit]
  | .finite .positive mantissa exponent hpos, h =>
    have hexponent := h.exponent_le
    unfold UnpackedFloat.pack
    dsimp only
    generalize hbiased : (exponent + format.exponentBias +
      format.mantissaBitsWithoutImplicit).toNat = biased
    rw [if_neg (by omega)]
    split
    · rename_i hlog
      have he : (BitVec.ofNat format.exponentBits biased).toNat = biased := by
        rw [BitVec.toNat_ofNat, Nat.mod_eq_of_lt (by omega)]
      refine inUnit_unpack_packComponents (by omega) (fun heq => ?_) hformat
      -- The exponent is that of one, so the mantissa has no bit below its leading one.
      have hbits : (-exponent).toNat = format.mantissaBitsWithoutImplicit := by omega
      have hleading : mantissa.log2 = format.mantissaBitsWithoutImplicit := by
        rw [Format.mantissaBits] at hlog
        omega
      have hone : mantissa = 2 ^ format.mantissaBitsWithoutImplicit :=
        Nat.le_antisymm (hbits ▸ h.mantissa_le)
          (hleading ▸ Nat.log2_self_le (Nat.ne_of_gt hpos))
      refine BitVec.eq_of_toNat_eq ?_
      rw [hone, BitVec.toNat_ofNat, Nat.mod_self, BitVec.toNat_zero]
    · refine inUnit_unpack_packComponents (by simp) (fun heq => ?_) hformat
      simp at heq
      omega

/-! ### Comparing -/

/-- One, as a value of a format. -/
def one (format : Format) : UnpackedFloat :=
  .finite .positive (2 ^ format.mantissaBitsWithoutImplicit) (-format.mantissaBitsWithoutImplicit)
    (Nat.two_pow_pos _)

section

variable {hpos : 0 < mantissa}

/-- Against one, a positive value is decided by its exponent and then by its mantissa. -/
theorem compare_one :
    UnpackedFloat.compare (.finite .positive mantissa exponent hpos) (one format) =
    some ((compare exponent (-format.mantissaBitsWithoutImplicit)).then
      (compare mantissa (2 ^ format.mantissaBitsWithoutImplicit))) := rfl

theorem one_compare :
    UnpackedFloat.compare (one format) (.finite .positive mantissa exponent hpos) =
    some ((compare (-format.mantissaBitsWithoutImplicit : Int) exponent).then
      (compare (2 ^ format.mantissaBitsWithoutImplicit) mantissa)) := rfl

/-- A positive value is at most one by its exponent, or by its mantissa if the exponents are the
same. -/
theorem le_one_iff : UnpackedFloat.le (.finite .positive mantissa exponent hpos) (one format) ↔
    exponent < -format.mantissaBitsWithoutImplicit ∨
      exponent = -format.mantissaBitsWithoutImplicit ∧
        mantissa ≤ 2 ^ format.mantissaBitsWithoutImplicit := by
  rw [UnpackedFloat.le, compare_one, Option.any_some, Ordering.isLE_then_iff_or,
    Int.compare_eq_lt, Int.compare_eq_eq, Nat.isLE_compare]

theorem one_lt_iff : UnpackedFloat.lt (one format) (.finite .positive mantissa exponent hpos) ↔
    -format.mantissaBitsWithoutImplicit < exponent ∨
      -format.mantissaBitsWithoutImplicit = exponent ∧
        2 ^ format.mantissaBitsWithoutImplicit < mantissa := by
  rw [UnpackedFloat.lt, one_compare, beq_iff_eq, Option.some.injEq, Ordering.then_eq_lt,
    Int.compare_eq_lt, Int.compare_eq_eq, Nat.compare_eq_lt]

end

/-- The values from zero to one are those that compare so. -/
theorem inUnit_unpack_iff {b : BitVec format.numBits} :
    InUnit format (UnpackedFloat.unpack format b) ↔
      UnpackedFloat.le (.zero .positive) (UnpackedFloat.unpack format b) ∧
        UnpackedFloat.le (UnpackedFloat.unpack format b) (one format) := by
  have hlt := @mantissa_lt_of_unpack format
  generalize hv : UnpackedFloat.unpack format b = v
  cases v with
  | notANumber => exact ⟨False.elim, fun h => nomatch h.1⟩
  | infinity sign =>
    cases sign with
    | positive => exact ⟨False.elim, fun h => nomatch h.2⟩
    | negative => exact ⟨False.elim, fun h => nomatch h.1⟩
  | zero sign => exact ⟨fun _ => ⟨rfl, rfl⟩, fun _ => trivial⟩
  | finite sign mantissa exponent hpos =>
    cases sign with
    | negative => exact ⟨False.elim, fun h => nomatch h.1⟩
    | positive =>
      have hbound := hlt hv
      rw [le_one_iff]
      constructor
      · intro h
        refine ⟨rfl, ?_⟩
        rcases Int.lt_or_eq_of_le h.exponent_le with hless | heq
        · exact .inl hless
        · have hmantissa := h.mantissa_le
          rw [heq, Int.neg_neg, Int.toNat_natCast] at hmantissa
          exact .inr ⟨heq, hmantissa⟩
      · rintro ⟨-, hless | ⟨rfl, hmantissa⟩⟩
        · refine ⟨Int.le_of_lt hless, Nat.le_trans (Nat.le_of_lt hbound) ?_⟩
          exact Nat.pow_le_pow_right (by decide) (by omega)
        · refine ⟨Int.le_refl _, ?_⟩
          rwa [Int.neg_neg, Int.toNat_natCast]

/-- What is neither less than zero nor greater than one is from zero to one, or no number. -/
theorem isNaN_or_inUnit {b : BitVec format.numBits}
    (hlow : ¬ UnpackedFloat.lt (UnpackedFloat.unpack format b) (.zero .positive))
    (hhigh : ¬ UnpackedFloat.lt (one format) (UnpackedFloat.unpack format b)) :
    (UnpackedFloat.unpack format b).isNaN ∨ InUnit format (UnpackedFloat.unpack format b) := by
  rw [inUnit_unpack_iff]
  generalize UnpackedFloat.unpack format b = v at hlow hhigh ⊢
  cases v with
  | notANumber => exact .inl rfl
  | infinity sign =>
    cases sign with
    | positive => exact absurd rfl hhigh
    | negative => exact absurd rfl hlow
  | zero sign => exact .inr ⟨rfl, rfl⟩
  | finite sign mantissa exponent hpos =>
    cases sign with
    | negative => exact absurd rfl hlow
    | positive =>
      rw [one_lt_iff] at hhigh
      refine .inr ⟨rfl, le_one_iff.mpr ?_⟩
      omega

theorem InUnit.isFinite {v : UnpackedFloat} (h : InUnit format v) : v.isFinite := by
  match v, h with
  | .zero _, _ => rfl
  | .finite .positive .., _ => rfl

theorem InUnit.not_isNaN {v : UnpackedFloat} (h : InUnit format v) : ¬ v.isNaN := by
  match v, h with
  | .zero _, _ => exact Bool.false_ne_true
  | .finite .positive .., _ => exact Bool.false_ne_true

theorem inUnit_one (format : Format) : InUnit format (one format) :=
  ⟨Int.le_refl _, by rw [Int.neg_neg, Int.toNat_natCast]⟩

/-! ### Floats -/

theorem inUnit_unpack32_iff {x : Float32} : InUnit .binary32 (unpack32 x) ↔ 0 ≤ x ∧ x ≤ 1 :=
  inUnit_unpack_iff.trans (and_congr decide_eq_true_iff.symm decide_eq_true_iff.symm)

theorem inUnit_unpack64_iff {x : Float} : InUnit .binary64 (unpack64 x) ↔ 0 ≤ x ∧ x ≤ 1 :=
  inUnit_unpack_iff.trans (and_congr decide_eq_true_iff.symm decide_eq_true_iff.symm)

theorem not_isNaN_of_mem {x : Float} (hx : 0 ≤ x ∧ x ≤ 1) : ¬ x.isNaN :=
  (inUnit_unpack64_iff.mpr hx).not_isNaN

theorem isFinite_of_mem {x : Float32} (hx : 0 ≤ x ∧ x ≤ 1) : x.isFinite :=
  (inUnit_unpack32_iff.mpr hx).isFinite

theorem zero_mem32 : (0 : Float32) ≤ 0 ∧ (0 : Float32) ≤ 1 := inUnit_unpack32_iff.mp trivial

theorem one_mem32 : (0 : Float32) ≤ 1 ∧ (1 : Float32) ≤ 1 :=
  inUnit_unpack32_iff.mp (inUnit_one .binary32)

theorem zero_mem64 : (0 : Float) ≤ 0 ∧ (0 : Float) ≤ 1 := inUnit_unpack64_iff.mp trivial

theorem one_mem64 : (0 : Float) ≤ 1 ∧ (1 : Float) ≤ 1 :=
  inUnit_unpack64_iff.mp (inUnit_one .binary64)

/-- A float is put between zero and one, unless it is no number: that stays one. -/
theorem clampUnit_mem (x : Float32) :
    (x.isNaN ∧ (clampUnit x).isNaN) ∨ 0 ≤ clampUnit x ∧ clampUnit x ≤ 1 := by
  rw [clampUnit]
  split
  · exact .inr zero_mem32
  · rename_i hlow
    split
    · exact .inr one_mem32
    · rename_i hhigh
      rw [← inUnit_unpack32_iff, and_self]
      exact isNaN_or_inUnit (mt decide_eq_true_iff.mpr hlow) (mt decide_eq_true_iff.mpr hhigh)

theorem clamp_mem (x : Float) :
    (x.isNaN ∧ (clamp x 0 1).isNaN) ∨ 0 ≤ clamp x 0 1 ∧ clamp x 0 1 ≤ 1 := by
  rw [clamp]
  split
  · exact .inr zero_mem64
  · rename_i hlow
    split
    · exact .inr one_mem64
    · rename_i hhigh
      rw [← inUnit_unpack64_iff, and_self]
      exact isNaN_or_inUnit (mt decide_eq_true_iff.mpr hlow) (mt decide_eq_true_iff.mpr hhigh)

theorem mul_mem {x y : Float} (hx : 0 ≤ x ∧ x ≤ 1) (hy : 0 ≤ y ∧ y ≤ 1) :
    0 ≤ x * y ∧ x * y ≤ 1 := by
  rw [← inUnit_unpack64_iff] at hx hy ⊢
  exact (hx.mul hy (by decide)).unpack_pack (by decide)

theorem narrow_mem {x : Float} (hx : 0 ≤ x ∧ x ≤ 1) : 0 ≤ narrow x ∧ narrow x ≤ 1 := by
  rw [← inUnit_unpack64_iff] at hx
  rw [← inUnit_unpack32_iff]
  -- The bits are packed twice, once by `pack32` and once by the float made of them.
  exact ((hx.convert (by decide) (by decide)).unpack_pack (by decide)).unpack_pack (by decide)

theorem isNaN_narrow {x : Float} (hx : x.isNaN) : (narrow x).isNaN := by
  have hv : unpack64 x = .notANumber := by
    change (unpack64 x).isNaN at hx
    generalize unpack64 x = v at hx
    cases v with
    | notANumber => rfl
    | infinity sign => cases hx
    | zero sign => cases hx
    | finite sign mantissa exponent hpos => cases hx
  rw [narrow, hv]
  rfl

/-- The same of a float that is put between zero and one and then narrowed. -/
theorem narrow_clamp_mem (x : Float) :
    (x.isNaN ∧ (narrow (clamp x 0 1)).isNaN) ∨
      0 ≤ narrow (clamp x 0 1) ∧ narrow (clamp x 0 1) ≤ 1 :=
  (clamp_mem x).imp (And.imp_right isNaN_narrow) narrow_mem

end Tilemap.Binary
