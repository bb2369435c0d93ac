import Mathlib
import ScenarioSuite.Json.Reader

/-!
# Reals that stay finite

A real number of 64 bits has a mantissa of at most 53 bits and an exponent. Rounding raises the
exponent by one at most, so the product and the quotient of a natural number and a power of ten up
to the 22nd stay far away from what is infinite.

## Main definitions

* `Decimal.Bounded`: a number is zero, or its exponent is not above a limit.

## Main statements

* `Decimal.bounded_mul`, `Decimal.bounded_div`: products with and quotients by exact powers of ten.
* `Decimal.ofScientific_eq`: a decimal of few digits is one such product or quotient.
-/

open Float.Model (Format totalExponent UnpackedFloat)
open Float.Model.UnpackedFloat

namespace ScenarioSuite.Decimal

/-- Zero, or a number with an exponent up to a limit. -/
inductive Bounded (limit : Int) : UnpackedFloat → Prop
  | zero (s : Sign) : Bounded limit (.zero s)
  | finite {s : Sign} {m : Nat} {e : Int} (pos : 0 < m) (le : e ≤ limit) :
      Bounded limit (.finite s m e pos)

theorem Bounded.isFinite {limit : Int} {x : Float} (h : Bounded limit x.toModel.unpack) :
    x.isFinite ∧ x.isInf = false := by
  change x.toModel.unpack.isFinite ∧ x.toModel.unpack.isInf = false
  generalize x.toModel.unpack = u at h
  cases h <;> exact ⟨rfl, rfl⟩

/-! ## Rounding -/

theorem targetExponent_eq (m : Nat) (e : Int) :
    Format.binary64.targetExponent (totalExponent m e) = max (m.log2 + e - 52) (-1074) := by
  simp only [Format.targetExponent, totalExponent, Format.mantissaBits, Format.minExponent]
  omega

theorem mantissa_shiftRight (em : ExtendedMantissa) (k : Nat) :
    (em >>> k).mantissa = em.mantissa / 2 ^ k := by
  induction k with
  | zero => exact (Nat.div_one _).symm
  | succ k ih =>
    change (em >>> k).mantissa / 2 = _
    rw [ih, Nat.div_div_eq_div_mul, Nat.pow_succ]

theorem roundedMantissa_le (em : ExtendedMantissa) : em.roundedMantissa ≤ em.mantissa + 1 := by
  obtain ⟨m, roundBit, stickyBit⟩ := em
  cases roundBit <;> cases stickyBit <;>
    simp only [ExtendedMantissa.roundedMantissa, ExtendedMantissa.accuracy,
      Accuracy.roundToNearestEven] <;> omega

/-- A shift leaves 53 bits of a mantissa at most. -/
theorem shiftToTargetExponent_eq (m : Nat) (e : Int) (a : Accuracy) :
    (shiftToTargetExponent Format.binary64 m e a).1.mantissa < 2 ^ 53 ∧
      (shiftToTargetExponent Format.binary64 m e a).2 = max e (max (m.log2 + e - 52) (-1074)) := by
  rw [shiftToTargetExponent, targetExponent_eq, shiftToExponent]
  dsimp only
  generalize hk : (max (m.log2 + e - 52) (-1074) - e).toNat = k
  constructor
  · have start : (ExtendedMantissa.ofMantissaAndAccuracy m a).mantissa = m := by
      cases a with
      | exact => rfl
      | inexact order => cases order <;> rfl
    rw [mantissa_shiftRight, start, Nat.div_lt_iff_lt_mul (Nat.two_pow_pos k), ← Nat.pow_add]
    exact Nat.lt_of_lt_of_le Nat.lt_log2_self (Nat.pow_le_pow_right (by decide) (by omega))
  · omega

/-- Rounding raises an exponent by one at most. -/
theorem bounded_roundWithAccuracy {m : Nat} {e limit : Int} (hm : m.log2 + e ≤ limit + 51)
    (he : e < limit) (normal : -1074 < limit) (s : Sign) (a : Accuracy) :
    Bounded limit (roundWithAccuracy Format.binary64 s m e a) := by
  obtain ⟨hmantissa, hexponent⟩ := shiftToTargetExponent_eq m e a
  unfold roundWithAccuracy
  generalize shiftToTargetExponent Format.binary64 m e a = shifted at hmantissa hexponent ⊢
  obtain ⟨em, e₁⟩ := shifted
  have small : em.roundedMantissa ≤ 2 ^ 53 :=
    Nat.le_trans (roundedMantissa_le em) hmantissa
  have log : em.roundedMantissa.log2 ≤ 53 := by
    rcases Nat.eq_zero_or_pos em.roundedMantissa with h | h
    · simp [h]
    · exact Nat.lt_succ_iff.1 ((Nat.log2_lt (Nat.ne_of_gt h)).2 (by omega))
  obtain ⟨-, hexponent'⟩ := shiftToTargetExponent_eq em.roundedMantissa e₁ .exact
  dsimp only at hexponent ⊢
  split
  · exact .zero s
  · exact .finite _ (by omega)

/-! ## Packing -/

/-- The field of a mantissa has 52 bits, and one more is not written. -/
theorem mantissa_lt {f : Float.Model} {s : Sign} {m : Nat} {e : Int} {pos : 0 < m}
    (h : f.unpack = .finite s m e pos) : m < 2 ^ 53 := by
  unfold Float.Model.unpack UnpackedFloat.unpack at h
  dsimp only at h
  split at h
  · split at h <;> cases h
  · split at h
    · split at h
      · cases h
      · cases h
        exact Nat.lt_trans (BitVec.isLt _) (by decide : 2 ^ 52 < 2 ^ 53)
    · cases h
      exact BitVec.isLt _

/-- What the field of an exponent says of the number. -/
theorem bounded_unpack {limit : Int} {b : BitVec Format.binary64.numBits} (low : -1074 ≤ limit)
    (small : (unpackExponent b).toNat < 2047) (le : (unpackExponent b).toNat ≤ limit + 1075) :
    Bounded limit (UnpackedFloat.unpack Format.binary64 b) := by
  have finite : unpackExponent b ≠ -1#11 := by
    intro h
    rw [h] at small
    exact absurd small (by decide)
  unfold UnpackedFloat.unpack
  dsimp only
  rw [if_neg finite]
  split
  · next h =>
    split
    · exact .zero _
    · refine .finite _ ?_
      rw [h]
      exact low
  · refine .finite _ ?_
    have bias : ((Format.binary64.exponentBias : Int) + (52 : Nat)) = 1075 := rfl
    omega

theorem bounded_unpack_pack {limit : Int} {u : UnpackedFloat} (h : Bounded limit u)
    (low : -1074 ≤ limit) (high : limit ≤ 971) : Bounded limit (Float.Model.pack u).unpack := by
  cases h with
  | zero s => cases s <;> exact .zero _
  | @finite s m e pos le =>
    change Bounded limit (UnpackedFloat.unpack _ (UnpackedFloat.pack Format.binary64 _))
    have bias : e + (Format.binary64.exponentBias : Int) + (52 : Nat) = e + 1075 := by
      rw [Int.add_assoc]
      rfl
    have fits : (e + 1075).toNat + 1 < 2 ^ Format.binary64.exponentBits := by
      change _ < 2 ^ 11
      omega
    unfold UnpackedFloat.pack
    dsimp only
    rw [bias, if_neg (Nat.not_le.2 fits)]
    split
    · refine bounded_unpack low ?_ ?_ <;>
        rw [unpackExponent_packComponents, BitVec.toNat_ofNat,
          Nat.mod_eq_of_lt (Nat.lt_of_succ_lt fits)] <;>
        omega
    · refine bounded_unpack low ?_ ?_ <;> rw [unpackExponent_packComponents]
      · decide
      · change ((0 : Nat) : Int) ≤ _
        omega

/-! ## Operations -/

theorem log2_le_log2 {m n : Nat} (h : m ≤ n) : m.log2 ≤ n.log2 := by
  rw [Nat.log2_eq_log_two, Nat.log2_eq_log_two]
  exact Nat.log_mono_right h

theorem log2_shiftLeft_le (n k : Nat) : (n <<< k).log2 ≤ n.log2 + k := by
  rw [Nat.shiftLeft_eq]
  rcases Nat.eq_zero_or_pos n with rfl | h
  · simp
  · have pos : n * 2 ^ k ≠ 0 := Nat.ne_of_gt (Nat.mul_pos h (Nat.two_pow_pos k))
    rw [← Nat.lt_succ_iff, Nat.log2_lt pos, ← Nat.succ_add, Nat.pow_add]
    exact Nat.mul_lt_mul_of_pos_right Nat.lt_log2_self (Nat.two_pow_pos k)

theorem log2_lt_53 {f : Float.Model} {s : Sign} {m : Nat} {e : Int} {pos : 0 < m}
    (h : f.unpack = .finite s m e pos) : m.log2 < 53 :=
  (Nat.log2_lt (Nat.ne_of_gt pos)).2 (mantissa_lt h)

theorem bounded_ofUInt64 (n : UInt64) : Bounded 12 n.toFloat.toModel.unpack := by
  refine bounded_unpack_pack ?_ (by decide) (by decide)
  change Bounded 12 (UnpackedFloat.normalize Format.binary64 (n.toNat : Int) 0 .positive)
  unfold UnpackedFloat.normalize
  rcases Nat.eq_zero_or_pos n.toNat with h | h
  · rw [h]
    exact .zero _
  · rw [Int.compare_eq_gt.2 (by omega)]
    have small : n.toNat.log2 < 64 := (Nat.log2_lt (Nat.ne_of_gt h)).2 n.toNat_lt
    dsimp only [Int.toNat_natCast, UnpackedFloat.round, decreaseExponent]
    rw [targetExponent_eq]
    have shifted := log2_shiftLeft_le n.toNat
      (0 - max ((n.toNat.log2 : Int) + 0 - 52) (-1074)).toNat
    exact bounded_roundWithAccuracy (by omega) (by omega) (by decide) _ _

/-- A number with the exponent of one of the powers of ten that have no error. -/
def IsExactPower : UnpackedFloat → Bool
  | .finite _ _ e _ => -52 ≤ e ∧ e ≤ 21
  | _ => false

variable {x y : Float}

theorem bounded_mul (hx : Bounded 12 x.toModel.unpack) (hy : IsExactPower y.toModel.unpack) :
    Bounded 87 (x * y).toModel.unpack := by
  refine bounded_unpack_pack ?_ (by decide) (by decide)
  generalize hu : x.toModel.unpack = u at hx
  cases hv : y.toModel.unpack with
  | finite s' m' e' pos' =>
    obtain ⟨-, le'⟩ : -52 ≤ e' ∧ e' ≤ 21 := by simpa [IsExactPower, hv] using hy
    cases hx with
    | zero s => exact .zero _
    | @finite s m e pos le =>
      have product := Nat.mul_lt_mul'' (mantissa_lt hu) (mantissa_lt hv)
      rw [← Nat.pow_add, ← Nat.log2_lt (Nat.ne_of_gt (Nat.mul_pos pos pos'))] at product
      exact bounded_roundWithAccuracy (by omega) (by omega) (by decide) _ _
  | _ => simp [IsExactPower, hv] at hy

theorem bounded_div (hx : Bounded 12 x.toModel.unpack) (hy : IsExactPower y.toModel.unpack) :
    Bounded 87 (x / y).toModel.unpack := by
  refine bounded_unpack_pack ?_ (by decide) (by decide)
  generalize hu : x.toModel.unpack = u at hx
  cases hv : y.toModel.unpack with
  | finite s' m' e' pos' =>
    obtain ⟨ge', -⟩ : -52 ≤ e' ∧ e' ≤ 21 := by simpa [IsExactPower, hv] using hy
    cases hx with
    | zero s => exact .zero _
    | @finite s m e pos le =>
      have small := log2_lt_53 hu
      -- The dividend is shifted until there are enough digits, and the quotient is no longer.
      generalize hk : (e - e' - min (e - e') (Format.binary64.targetExponent
        (totalExponent m e - totalExponent m' e'))).toNat = k
      have shifted := log2_shiftLeft_le m k
      have quotient : (m <<< k / m').log2 ≤ (m <<< k).log2 := log2_le_log2 (Nat.div_le_self _ _)
      have core : divCore Format.binary64 m e m' e' =
          (m <<< k / m', e - e' - k, accuracyOfFraction (m <<< k % m') m') := by
        have target : e - e' - k = min (e - e') (Format.binary64.targetExponent
          (totalExponent m e - totalExponent m' e')) := by omega
        rw [divCore, hk, target]
      rw [UnpackedFloat.div, core]
      exact bounded_roundWithAccuracy (by omega) (by omega) (by decide) _ _
  | _ => simp [IsExactPower, hv] at hy

theorem bounded_neg {limit : Int} (hx : Bounded limit x.toModel.unpack) (low : -1074 ≤ limit)
    (high : limit ≤ 971) : Bounded limit (-x).toModel.unpack := by
  have negated {u : UnpackedFloat} (h : Bounded limit u) : Bounded limit u.neg := by
    cases h with
    | zero s => exact .zero _
    | finite pos le => exact .finite pos le
  exact bounded_unpack_pack (negated hx) low high

/-! ## Powers of ten -/

theorem powerOfTen_spec : ∀ n : Fin 23,
    Json.Number.powerOfTen n = Float.exactlyRepresentablePowersOfTen[n] ∧
      IsExactPower (Json.Number.powerOfTen n).toModel.unpack := by
  decide +kernel

/-- A decimal of few digits is the quotient by a power of ten or the product with it. -/
theorem ofScientific_eq {s n : Nat} (hs : s < 2 ^ 53) (hn : n ≤ 22) (down : Bool) :
    Float.ofScientific s down n =
      if down then s.toUInt64.toFloat / Json.Number.powerOfTen n
      else s.toUInt64.toFloat * Json.Number.powerOfTen n := by
  obtain ⟨power, -⟩ := powerOfTen_spec ⟨n, Nat.lt_succ_of_le hn⟩
  rw [Float.ofScientific, dif_pos ⟨hs, hn⟩, power]
  rfl

end ScenarioSuite.Decimal
