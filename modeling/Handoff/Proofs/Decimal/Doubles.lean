import Handoff.Json.Basic
import Mathlib

/-!
# Doubles that are numbers

Equality of doubles is symmetric and transitive, and it is reflexive but for NaN.  No integer is
read as NaN: integers are rounded, multiplied by a power of ten and negated, and none of this makes
NaN of a number.

* `unpack_pack_ne_nan`   a number that is packed is read back as one;
* `natural_ne_nan`, `neg_ne_nan`   the numbers that integers are made from;
* `toFloat_beq_self`     an integer is read as a double that equals itself.
-/

namespace Handoff.Decimal
open Float.Model Float.Model.UnpackedFloat

theorem beq_self {x : Float} (h : x.toModel.unpack ≠ .notANumber) : (x == x) = true :=
  (beq_iff_ne_notANumber_and_eq _ _).mpr ⟨h, h, .inl rfl⟩

section
variable (spec : Format)

/-- only a full exponent with some fraction is NaN -/
theorem unpack_ne_nan {b : BitVec spec.numBits}
    (h : unpackExponent b = -1#_ → unpackMantissa b = 0#_) :
    UnpackedFloat.unpack spec b ≠ .notANumber := by
  unfold UnpackedFloat.unpack
  dsimp only
  split
  · next full =>
    rw [if_pos (h full)]
    exact UnpackedFloat.noConfusion
  · split
    · split <;> exact UnpackedFloat.noConfusion
    · exact UnpackedFloat.noConfusion

/-- what is packed as a number is read back as one -/
theorem unpack_pack_ne_nan {u : UnpackedFloat} (h : u ≠ .notANumber) :
    UnpackedFloat.unpack spec (UnpackedFloat.pack spec u) ≠ .notANumber := by
  refine unpack_ne_nan spec fun full => ?_
  cases u with
  | notANumber => exact absurd rfl h
  | infinity s => simp [UnpackedFloat.pack, packedInfinity]
  | zero s => simp [UnpackedFloat.pack, packedZero]
  | finite s m e hm =>
    unfold UnpackedFloat.pack at full ⊢
    dsimp only at full ⊢
    split at full
    · next large =>
      rw [if_pos large]
      simp [packedInfinity]
    · next small =>
      split at full
      · -- the exponent that is written is below the full one
        rw [unpackExponent_packComponents, BitVec.neg_one_eq_allOnes, ← BitVec.toNat_inj,
          BitVec.toNat_ofNat, BitVec.toNat_allOnes, Nat.mod_eq_of_lt (by omega)] at full
        omega
      · have more := Nat.one_lt_two_pow (Nat.ne_of_gt spec.he)
        rw [unpackExponent_packComponents, BitVec.neg_one_eq_allOnes, ← BitVec.toNat_inj,
          BitVec.toNat_ofNat, BitVec.toNat_allOnes, Nat.zero_mod] at full
        omega

theorem roundWithAccuracy_ne_nan (s : Sign) (m : Nat) (e : Int) (a : Accuracy) :
    roundWithAccuracy spec s m e a ≠ .notANumber := by
  unfold roundWithAccuracy
  dsimp only
  split <;> exact UnpackedFloat.noConfusion

theorem ofNat_ne_nan (n : Nat) : UnpackedFloat.ofNat spec n ≠ .notANumber := by
  unfold UnpackedFloat.ofNat UnpackedFloat.ofInt UnpackedFloat.normalize
  split
  · exact roundWithAccuracy_ne_nan spec _ _ _ _
  · exact UnpackedFloat.noConfusion
  · exact roundWithAccuracy_ne_nan spec _ _ _ _

theorem mul_finite_ne_nan {u : UnpackedFloat} (h : u ≠ .notANumber) (s : Sign) (m : Nat) (e : Int)
    (hm : 0 < m) :
    UnpackedFloat.mul spec u (.finite s m e hm) ≠ .notANumber := by
  cases u with
  | notANumber => exact absurd rfl h
  | infinity t => exact UnpackedFloat.noConfusion
  | zero t => exact UnpackedFloat.noConfusion
  | finite t k e' hk => exact roundWithAccuracy_ne_nan spec _ _ _ _

theorem ofScientific_ne_nan (m e : Nat) :
    UnpackedFloat.ofScientific spec m e ≠ .notANumber := by
  unfold UnpackedFloat.ofScientific
  split
  · exact UnpackedFloat.noConfusion
  · split
    · exact UnpackedFloat.noConfusion
    · split
      · exact UnpackedFloat.noConfusion
      · rw [if_pos (Int.natCast_nonneg e)]
        exact mul_finite_ne_nan spec UnpackedFloat.noConfusion _ _ _ _

end

theorem natural_ne_nan (n : Nat) : (Float.ofNat n).toModel.unpack ≠ .notANumber := by
  show (Float.ofScientific n false 0).toModel.unpack ≠ _
  unfold Float.ofScientific
  split
  · -- a small natural is multiplied with the power of ten with exponent zero
    have one : Float.exactlyRepresentablePowersOfTen[0].toModel.unpack
        = .finite .positive 4503599627370496 (-52) (by decide) := rfl
    show (Float.Model.pack (UnpackedFloat.mul _ n.toUInt64.toFloat.toModel.unpack
      Float.exactlyRepresentablePowersOfTen[0].toModel.unpack)).unpack ≠ _
    rw [one]
    refine unpack_pack_ne_nan _ (mul_finite_ne_nan _ ?_ _ _ _ _)
    exact unpack_pack_ne_nan _ (ofNat_ne_nan _ _)
  · exact unpack_pack_ne_nan _ (ofScientific_ne_nan _ n 0)

theorem neg_ne_nan {x : Float} (h : x.toModel.unpack ≠ .notANumber) :
    (-x).toModel.unpack ≠ .notANumber := by
  show (Float.Model.pack x.toModel.unpack.neg).unpack ≠ _
  refine unpack_pack_ne_nan _ ?_
  cases hx : x.toModel.unpack with
  | notANumber => exact absurd hx h
  | _ => exact UnpackedFloat.noConfusion

theorem toFloat_beq_self (n : Int) :
    ((JsonNumber.int n).toFloat == (JsonNumber.int n).toFloat) = true := by
  refine beq_self ?_
  unfold JsonNumber.toFloat
  dsimp only
  split
  · exact neg_ne_nan (natural_ne_nan _)
  · exact natural_ne_nan _

end Handoff.Decimal
