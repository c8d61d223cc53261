import Mathlib.Algebra.Order.Field.Rat
import PathQuery.Proofs.Number.Rounding

/-! # Exact values

The value of a number as a rational number: an integer's is the integer itself, a double's
is read off its sign, mantissa and exponent.  Values compare as `exactUnits` do, but
`order` compares these only when both numbers fit the signed 64-bit range, and rounds them
otherwise.  Since rounding is monotone it never swaps two values, it can only merge them:
numbers compare as their values do if they are `Separated`, and as equal if they are not. -/
namespace PathQuery

namespace Double

/-- The value of a double, `± mantissa · 2 ^ (exponent - 1074)`. -/
def value (x : Double) : ℚ :=
  (if x.negative then -1 else 1) * x.mantissa * 2 ^ ((x.exponent : ℤ) - 1074)

theorem cast_unitsPerOne : ((unitsPerOne : ℤ) : ℚ) = 2 ^ (1074 : ℕ) := by
  unfold unitsPerOne
  -- nothing is to evaluate the power
  generalize 1074 = k
  rw [Int.cast_natCast]
  exact Nat.cast_pow 2 k

theorem units_eq_value (x : Double) : (x.units : ℚ) = x.value * 2 ^ (1074 : ℕ) := by
  have hpow : (2 : ℚ) ^ ((x.exponent : ℤ) - 1074) * 2 ^ (1074 : ℕ) = 2 ^ x.exponent := by
    rw [← zpow_natCast (2 : ℚ) 1074, ← zpow_add₀ two_ne_zero, ← zpow_natCast]
    congr 1
    simp
  rw [value, mul_assoc, hpow, units, magnitude_eq]
  cases x.negative <;> simp [signed]

end Double

namespace Number

/-- The value of a number. -/
def value : Number → ℚ
  | .int n _ => n
  | .double x => x.value

theorem exactUnits_eq_value (a : Number) : (a.exactUnits : ℚ) = a.value * 2 ^ (1074 : ℕ) := by
  cases a with
  | int n _ => rw [exactUnits, value, Int.cast_mul, Double.cast_unitsPerOne]
  | double x => exact x.units_eq_value

/-- Exact values in units compare as the values do. -/
theorem cmp_exactUnits (a b : Number) : cmp a.exactUnits b.exactUnits = cmp a.value b.value := by
  calc cmp a.exactUnits b.exactUnits = cmp (a.exactUnits : ℚ) (b.exactUnits : ℚ) :=
        (Int.cast_strictMono.cmp_map_eq _ _).symm
    _ = cmp (a.value * 2 ^ (1074 : ℕ)) (b.value * 2 ^ (1074 : ℕ)) := by
        rw [exactUnits_eq_value, exactUnits_eq_value]
    _ = cmp a.value b.value := cmp_mul_pos_right (pow_pos two_pos 1074) _ _

/-! ### What a comparison tells apart -/

/-- Two numbers that a comparison keeps apart: both fit the signed 64-bit range, or the
nearest doubles differ. -/
def Separated (a b : Number) : Prop :=
  (a.signed64?.isSome ∧ b.signed64?.isSome) ∨ a.roundedUnits ≠ b.roundedUnits

theorem value_of_signed64? {a : Number} {i : Int} (h : a.signed64? = some i) : a.value = i := by
  cases a with
  | int n _ =>
    simp only [signed64?, Option.ite_none_right_eq_some, Option.some.injEq] at h
    rw [value, h.2]
  | double x => simp [signed64?] at h

theorem order_of_signed {a b : Number} (ha : a.signed64?.isSome) (hb : b.signed64?.isSome) :
    a.order b = cmp a.value b.value := by
  obtain ⟨i, hi⟩ := Option.isSome_iff_exists.mp ha
  obtain ⟨j, hj⟩ := Option.isSome_iff_exists.mp hb
  rw [value_of_signed64? hi, value_of_signed64? hj, Int.cast_strictMono.cmp_map_eq,
    cmp_eq_compare]
  simp only [order, hi, hj]

theorem order_of_not_signed {a b : Number} (h : ¬ (a.signed64?.isSome ∧ b.signed64?.isSome)) :
    a.order b = cmp a.roundedUnits b.roundedUnits := by
  rw [cmp_eq_compare]
  unfold order
  split
  · rename_i hi hj
    exact absurd ⟨by simp [hi], by simp [hj]⟩ h
  · rfl

/-- Rounding does not swap two values. -/
theorem cmp_roundedUnits {a b : Number} (h : a.roundedUnits ≠ b.roundedUnits) :
    cmp a.roundedUnits b.roundedUnits = cmp a.value b.value := by
  rw [← cmp_exactUnits]
  -- were the exact values the other way round, rounding would keep them so
  rcases lt_or_gt_of_ne h with hlt | hgt
  · have hexact : a.exactUnits < b.exactUnits := by
      by_contra hle
      exact absurd (roundedUnits_mono (not_lt.mp hle)) (not_le.mpr hlt)
    rw [(cmp_eq_lt_iff _ _).mpr hlt, (cmp_eq_lt_iff _ _).mpr hexact]
  · have hexact : b.exactUnits < a.exactUnits := by
      by_contra hle
      exact absurd (roundedUnits_mono (not_lt.mp hle)) (not_le.mpr hgt)
    rw [(cmp_eq_gt_iff _ _).mpr hgt, (cmp_eq_gt_iff _ _).mpr hexact]

/-- Numbers that are kept apart compare as their values do. -/
theorem order_of_separated {a b : Number} (h : a.Separated b) :
    a.order b = cmp a.value b.value := by
  by_cases hs : a.signed64?.isSome ∧ b.signed64?.isSome
  · exact order_of_signed hs.1 hs.2
  · rw [order_of_not_signed hs, cmp_roundedUnits (h.resolve_left hs)]

/-- All others compare as equal. -/
theorem order_of_not_separated {a b : Number} (h : ¬ a.Separated b) : a.order b = .eq := by
  obtain ⟨hs, hr⟩ := not_or.mp h
  rw [order_of_not_signed hs, cmp_eq_eq_iff]
  exact not_not.mp hr

end Number

end PathQuery
