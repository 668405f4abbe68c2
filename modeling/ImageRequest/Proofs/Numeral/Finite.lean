import ImageRequest.Numeral.Decimal
import Mathlib

/-!
# Doubles of integers

The double nearest to an integer of 64 bits is finite. Rounding to a double is followed only as far
as that: the exponent of what is rounded grows by no more than a few times the length of the
mantissa, and a double whose exponent is at most 971 is packed as a finite one.
-/

namespace ImageRequest.Numeral

open Float.Model Float.Model.UnpackedFloat

/-- An unpacked double that is zero, or finite with an exponent up to a bound. -/
def ExponentLe (bound : Int) : UnpackedFloat → Prop
  | .zero _ => True
  | .finite _ _ exponent _ => exponent ≤ bound
  | _ => False

namespace ExponentLe

theorem isFinite {bound : Int} {f : UnpackedFloat} (le : ExponentLe bound f) :
    f.isFinite = true := by
  cases f with
  | infinity sign => exact le.elim
  | notANumber => exact le.elim
  | zero sign => rfl
  | finite sign mantissa exponent positive => rfl

theorem mono {low high : Int} {f : UnpackedFloat} (le : ExponentLe low f) (bounds : low ≤ high) :
    ExponentLe high f := by
  cases f with
  | infinity sign => exact le.elim
  | notANumber => exact le.elim
  | zero sign => trivial
  | finite sign mantissa exponent positive => exact Int.le_trans le bounds

theorem neg {bound : Int} {f : UnpackedFloat} (le : ExponentLe bound f) :
    ExponentLe bound f.neg := by
  cases f with
  | infinity sign => exact le.elim
  | notANumber => exact le.elim
  | zero sign => trivial
  | finite sign mantissa exponent positive => exact le

end ExponentLe

/-! ### Rounding -/

theorem mantissa_shiftRight_le (em : ExtendedMantissa) (places : Nat) :
    (em >>> places).mantissa ≤ em.mantissa := by
  induction places with
  | zero => exact Nat.le_refl _
  | succ places ih =>
      change (em >>> places).mantissa / 2 ≤ em.mantissa
      exact Nat.le_trans (Nat.div_le_self _ 2) ih

theorem roundedMantissa_le (em : ExtendedMantissa) : em.roundedMantissa ≤ em.mantissa + 1 := by
  obtain ⟨mantissa, roundBit, stickyBit⟩ := em
  cases roundBit <;> cases stickyBit <;>
    simp only [ExtendedMantissa.roundedMantissa, ExtendedMantissa.accuracy,
      Accuracy.roundToNearestEven] <;>
    omega

theorem mantissa_ofMantissaAndAccuracy (mantissa : Nat) (accuracy : Accuracy) :
    (ExtendedMantissa.ofMantissaAndAccuracy mantissa accuracy).mantissa = mantissa := by
  rcases accuracy with _ | order
  · rfl
  · cases order <;> rfl

theorem log2_le_of_lt {m bits : Nat} (small : m < 2 ^ bits) : m.log2 ≤ bits := by
  by_cases zero : m = 0
  · simp [zero]
  · exact Nat.le_of_lt ((Nat.log2_lt zero).2 small)

theorem targetExponent_totalExponent (mantissa : Nat) (exponent : Int) :
    Format.binary64.targetExponent (totalExponent mantissa exponent) =
      max (mantissa.log2 + exponent - 52) (-1074) := by
  simp only [Format.targetExponent, totalExponent, Format.mantissaBits, Format.minExponent]
  omega

/-- A shift towards the target exponent makes the mantissa no greater, and raises the exponent no
further than to the target. -/
theorem shiftToTargetExponent_le (mantissa : Nat) (exponent : Int) (accuracy : Accuracy) :
    (shiftToTargetExponent .binary64 mantissa exponent accuracy).1.mantissa ≤ mantissa ∧
      (shiftToTargetExponent .binary64 mantissa exponent accuracy).2 =
        max exponent (max (mantissa.log2 + exponent - 52) (-1074)) := by
  simp only [shiftToTargetExponent, shiftToExponent, targetExponent_totalExponent]
  constructor
  · have shifted := mantissa_shiftRight_le
      (ExtendedMantissa.ofMantissaAndAccuracy mantissa accuracy)
    rw [mantissa_ofMantissaAndAccuracy] at shifted
    exact shifted _
  · omega

theorem exponentLe_roundWithAccuracy {mantissa : Nat} {exponent bound : Int} (sign : Sign)
    (accuracy : Accuracy) (bits : Nat) (small : mantissa < 2 ^ bits)
    (le : exponent + 2 * bits ≤ bound) (normal : bits ≤ bound) :
    ExponentLe bound (roundWithAccuracy .binary64 sign mantissa exponent accuracy) := by
  obtain ⟨mantissa₁, exponent₁⟩ := shiftToTargetExponent_le mantissa exponent accuracy
  have length := log2_le_of_lt small
  unfold roundWithAccuracy
  generalize shiftToTargetExponent .binary64 mantissa exponent accuracy = first at *
  -- rounding up can carry into one more bit, which the second shift takes away again
  have rounded : first.1.roundedMantissa.log2 ≤ bits + 1 := by
    have atMost : first.1.roundedMantissa ≤ 2 ^ bits :=
      Nat.le_trans (roundedMantissa_le first.1) (by omega)
    exact log2_le_of_lt (Nat.lt_of_le_of_lt atMost (Nat.pow_lt_pow_succ (by decide)))
  obtain ⟨-, exponent₂⟩ := shiftToTargetExponent_le first.1.roundedMantissa first.2 .exact
  simp only
  split
  · trivial
  · simp only [ExponentLe]
    omega

theorem exponentLe_mul {sign₁ sign₂ : Sign} {m₁ m₂ : Nat} {e₁ e₂ bound : Int}
    {positive₁ : 0 < m₁} {positive₂ : 0 < m₂} (bits₁ bits₂ : Nat) (small₁ : m₁ < 2 ^ bits₁)
    (small₂ : m₂ < 2 ^ bits₂) (le : e₁ + e₂ + 2 * (bits₁ + bits₂ : Nat) ≤ bound)
    (normal : (bits₁ + bits₂ : Nat) ≤ bound) :
    ExponentLe bound
      (mul .binary64 (.finite sign₁ m₁ e₁ positive₁) (.finite sign₂ m₂ e₂ positive₂)) := by
  have product : m₁ * m₂ < 2 ^ (bits₁ + bits₂) := by
    rw [Nat.pow_add]
    exact Nat.mul_lt_mul_of_lt_of_le small₁ (Nat.le_of_lt small₂) (Nat.two_pow_pos bits₂)
  exact exponentLe_roundWithAccuracy _ .exact (bits₁ + bits₂) product le normal

/-! ### Packing -/

theorem mantissa_lt_of_unpack {bits : BitVec 64} {sign : Sign} {mantissa : Nat} {exponent : Int}
    {positive : 0 < mantissa}
    (unpacked : UnpackedFloat.unpack .binary64 bits = .finite sign mantissa exponent positive) :
    mantissa < 2 ^ 53 := by
  unfold UnpackedFloat.unpack at unpacked
  simp only at unpacked
  split at unpacked
  · split at unpacked <;> cases unpacked
  · split at unpacked
    · split at unpacked
      · cases unpacked
      · cases unpacked
        exact Nat.lt_trans (BitVec.isLt _) (by decide)
    · cases unpacked
      exact BitVec.isLt _

theorem exponentLe_unpack {bits : BitVec 64}
    (finite : (@unpackExponent .binary64 bits).toNat < 2047) :
    ExponentLe (max ((@unpackExponent .binary64 bits).toNat - 1075) (-1074))
      (UnpackedFloat.unpack .binary64 bits) := by
  unfold UnpackedFloat.unpack
  simp only [Format.exponentBias]
  split
  · rename_i all
    rw [all] at finite
    exact absurd finite (by decide)
  · split
    · rename_i zero
      split
      · trivial
      · simp only [ExponentLe, zero]
        decide
    · simp only [ExponentLe]
      omega

/-- Packing keeps a double finite whose exponent is small enough, and does not raise the exponent
above that of the subnormal doubles. -/
theorem exponentLe_unpack_pack {bound : Int} {f : UnpackedFloat} (le : ExponentLe bound f)
    (normal : -1074 ≤ bound) (finite : bound ≤ 971) :
    ExponentLe bound (Float.Model.pack f).unpack := by
  have bias : Format.binary64.exponentBias = 1023 := rfl
  simp only [Float.Model.unpack, Float.Model.pack]
  cases f with
  | infinity sign => exact le.elim
  | notANumber => exact le.elim
  | zero sign => cases sign <;> exact trivial
  | finite sign mantissa exponent positive =>
      simp only [ExponentLe] at le
      simp only [UnpackedFloat.pack, bias]
      rw [if_neg (by omega)]
      split
      · have field : (exponent + (1023 : Nat) + (52 : Nat)).toNat < 2 ^ 11 := by omega
        refine (exponentLe_unpack ?_).mono ?_
        · simp only [unpackExponent_packComponents, BitVec.toNat_ofNat, Nat.mod_eq_of_lt field]
          omega
        · simp only [unpackExponent_packComponents, BitVec.toNat_ofNat, Nat.mod_eq_of_lt field]
          omega
      · refine (exponentLe_unpack ?_).mono ?_
        · rw [unpackExponent_packComponents]
          decide
        · rw [unpackExponent_packComponents]
          exact normal

theorem exponentLe_of_isFinite {x : Float.Model} (finite : x.unpack.isFinite = true) :
    ExponentLe 971 x.unpack := by
  have notAll : (@unpackExponent .binary64 x.toBits.toBitVec).toNat < 2047 := by
    refine Nat.lt_of_le_of_ne (Nat.le_of_lt_succ (BitVec.isLt _)) fun all => ?_
    have all' : @unpackExponent .binary64 x.toBits.toBitVec = -1#_ := BitVec.eq_of_toNat_eq all
    simp only [Float.Model.unpack, UnpackedFloat.unpack, if_pos all'] at finite
    split at finite <;> cases finite
  exact (exponentLe_unpack notAll).mono (by omega)

/-! ### Integers -/

theorem exponentLe_ofNat {n : Nat} (small : n < 2 ^ 64) :
    ExponentLe 232 (UnpackedFloat.ofNat .binary64 n) := by
  unfold UnpackedFloat.ofNat UnpackedFloat.ofInt UnpackedFloat.normalize
  split
  · rename_i negative
    have := Int.compare_eq_lt.1 negative
    omega
  · trivial
  · simp only [UnpackedFloat.round, decreaseExponent, targetExponent_totalExponent,
      Int.toNat_natCast]
    generalize shift : (0 - max ((n.log2 : Int) + 0 - 52) (-1074)).toNat = places
    have few : places ≤ 52 := by omega
    have shifted : n <<< places < 2 ^ (64 + 52) := by
      rw [Nat.shiftLeft_eq, Nat.pow_add]
      exact Nat.mul_lt_mul_of_lt_of_le small (Nat.pow_le_pow_right (by decide) few) (by decide)
    exact exponentLe_roundWithAccuracy .positive .exact (64 + 52) shifted (by omega) (by decide)

/-- The product with the double one, the power of ten that stands beside an integer. -/
theorem exponentLe_mul_one {f : Float.Model} (le : ExponentLe 232 f.unpack) :
    ExponentLe 444 (mul .binary64 f.unpack (.finite .positive (2 ^ 52) (-52) (by decide))) := by
  cases same : f.unpack with
  | infinity sign => simp [same, ExponentLe] at le
  | notANumber => simp [same, ExponentLe] at le
  | zero sign => trivial
  | finite sign mantissa exponent positive =>
      simp only [same, ExponentLe] at le
      exact exponentLe_mul 53 53 (mantissa_lt_of_unpack same) (by decide) (by omega) (by decide)

theorem isFinite_ofNat {n : Nat} (small : n < 2 ^ 64) : (Float.ofNat n).isFinite = true := by
  change (Float.ofScientific n false 0).isFinite = true
  unfold Float.ofScientific
  split
  · change (Float.Model.mul (Float.Model.ofUInt64 n.toUInt64)
      (Float.Model.ofBits 0x3FF0000000000000)).unpack.isFinite = true
    have converted := exponentLe_unpack_pack (exponentLe_ofNat n.toUInt64.toNat_lt) (by decide)
      (by decide)
    exact (exponentLe_unpack_pack (exponentLe_mul_one converted) (by decide) (by decide)).isFinite
  · change (Float.Model.ofScientific n 0).unpack.isFinite = true
    unfold Float.Model.ofScientific UnpackedFloat.ofScientific
    split
    · rfl
    · have notSmall : ¬ (0 : Int) < -((2 ^ 11 : Int) + n.log2) := by omega
      rw [if_neg (by decide), if_neg notSmall, if_pos (Int.le_refl 0)]
      -- the shifted integer gets a name, so that nothing tries to compute it
      obtain ⟨m, shifted⟩ : ∃ m, m = n <<< Format.binary64.mantissaBits := ⟨_, rfl⟩
      simp only [← shifted]
      have length : m < 2 ^ 117 := by
        rw [shifted, Nat.shiftLeft_eq]
        change n * 2 ^ 53 < 2 ^ 117
        omega
      have product : ∀ positive : 0 < m,
          ExponentLe 183 (mul .binary64 (.finite .positive m (-53) positive)
            (.finite .positive (10 ^ 0) 0 (by decide))) :=
        fun positive => exponentLe_mul 117 1 length (by decide) (by decide) (by decide)
      exact (exponentLe_unpack_pack (product _) (by decide) (by decide)).isFinite

theorem isFinite_neg {x : Float} (finite : x.isFinite = true) : (-x).isFinite = true := by
  change (Float.Model.pack x.toModel.unpack.neg).unpack.isFinite = true
  have le : ExponentLe 971 x.toModel.unpack := exponentLe_of_isFinite finite
  exact (exponentLe_unpack_pack le.neg (by decide) (by decide)).isFinite

/-- The double of an integer of 64 bits is finite. -/
theorem isFinite_ofInt {n : Int} (low : -9223372036854775808 ≤ n)
    (high : n ≤ 9223372036854775807) : (Float.ofInt n).isFinite = true := by
  cases n with
  | ofNat n =>
      rw [Int.ofNat_eq_natCast] at high
      exact isFinite_ofNat (by omega)
  | negSucc n => exact isFinite_neg (isFinite_ofNat (by omega))

end ImageRequest.Numeral
