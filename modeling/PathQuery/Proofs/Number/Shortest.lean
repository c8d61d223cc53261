import PathQuery.Proofs.Number.Digits
import PathQuery.Proofs.Number.Rounding

/-! # The digits of a double read back

A numeral's value does not change when zeros move from its digits into its exponent
(`toDouble?_scaled`).  The digits of a double are found by searching for the fewest that
read back, so that they do is seen from the search, except for all digits of the value,
which `shortest` falls back on (`toDouble?_exact`): of these it has to be shown that their
number is in the range that `toDouble?` does not settle by their number alone. -/
namespace PathQuery
namespace Decimal

open Text

/-! ### Rescaling -/

/-- The numeral with `k` zeros moved from the exponent into the digits. -/
def scaled (k : Nat) (d : Decimal) : Decimal := ⟨d.negative, d.digits * 10 ^ k, d.exponent - k⟩

theorem ratio_eq (d : Decimal) :
    d.ratio = (d.digits * 10 ^ d.exponent.toNat * Double.unitsPerOne,
      10 ^ (-d.exponent).toNat) := by
  unfold ratio
  split
  · rename_i h
    rw [show (-d.exponent).toNat = 0 by omega]
    rfl
  · rename_i h
    rw [show d.exponent.toNat = 0 by omega, Nat.pow_zero, Nat.mul_one]
    rfl

/-- The quotient stays the same. -/
theorem ratio_scaled (k : Nat) (d : Decimal) :
    (d.scaled k).ratio.1 * d.ratio.2 = d.ratio.1 * (d.scaled k).ratio.2 := by
  have hpow : k + (d.exponent - k).toNat + (-d.exponent).toNat =
      d.exponent.toNat + (-(d.exponent - k)).toNat := by
    omega
  rw [ratio_eq, ratio_eq]
  simp only [scaled]
  calc d.digits * 10 ^ k * 10 ^ (d.exponent - k).toNat * Double.unitsPerOne *
        10 ^ (-d.exponent).toNat
      = d.digits * Double.unitsPerOne *
          10 ^ (k + (d.exponent - k).toNat + (-d.exponent).toNat) := by
        rw [Nat.pow_add, Nat.pow_add]; ring
    _ = d.digits * Double.unitsPerOne *
          10 ^ (d.exponent.toNat + (-(d.exponent - k)).toNat) := by rw [hpow]
    _ = _ := by rw [Nat.pow_add]; ring

theorem ratio_pos (d : Decimal) : 0 < d.ratio.2 := by
  rw [ratio_eq]
  positivity

theorem toDouble?_zero {d : Decimal} (h : d.digits = 0) :
    d.toDouble? = some (.zero d.negative) := by
  simp [toDouble?, h]

theorem toDouble?_scaled (k : Nat) (d : Decimal) : (d.scaled k).toDouble? = d.toDouble? := by
  by_cases hz : d.digits = 0
  · rw [toDouble?_zero hz, toDouble?_zero (by simp [scaled, hz])]
    rfl
  · have hpos : 0 < d.digits := Nat.pos_of_ne_zero hz
    have hscaled : (d.scaled k).digits ≠ 0 :=
      Nat.ne_of_gt (Nat.mul_pos hpos (Nat.pow_pos (by decide)))
    have hsize : (digitCount (d.scaled k).digits : Int) + (d.scaled k).exponent =
        digitCount d.digits + d.exponent := by
      simp only [scaled, digitCount_mul_pow hpos]
      omega
    have hnearest := Double.nearest?_congr (ratio_pos _) (ratio_pos _) (ratio_scaled k d) d.negative
    unfold toDouble?
    rw [if_neg hscaled, if_neg hz]
    simp only [hsize]
    rw [show (d.scaled k).negative = d.negative from rfl, hnearest]

/-! ### Digits that read back -/

/-- Of two numerals the first that reads back is taken. -/
theorem toDouble?_of_first {x : Double} {near far d : Decimal}
    (h : (if near.toDouble? = some x then some near
      else if far.toDouble? = some x then some far else none) = some d) :
    d.toDouble? = some x := by
  split at h
  · rename_i hnear
    exact Option.some.inj h ▸ hnear
  · split at h
    · rename_i hfar
      exact Option.some.inj h ▸ hfar
    · cases h

theorem toDouble?_of_withDigits? {x : Double} {count : Nat} {d : Decimal}
    (h : withDigits? x count = some d) : d.toDouble? = some x := by
  unfold withDigits? at h
  extract_lets at h
  exact toDouble?_of_first h

theorem magnitude_lt (x : Double) : x.magnitude < 2 ^ 2098 := by
  rw [Double.magnitude_eq]
  calc x.mantissa * 2 ^ x.exponent < 2 ^ 53 * 2 ^ x.exponent :=
        Nat.mul_lt_mul_of_pos_right x.mantissa_lt_pow (by positivity)
    _ = 2 ^ (53 + x.exponent) := (pow_add ..).symm
    _ ≤ 2 ^ 2098 := pow_le_pow_right₀ (by decide) (Nat.add_le_add_left x.exponent_le 53)

theorem five_pow_pos : 0 < Nat.pow 5 1074 := by decide +kernel

/-- The digits of the exact value are neither too many nor too few to be read. -/
theorem size_exact {x : Double} (h : x.magnitude ≠ 0) :
    -400 ≤ (digitCount (exact x).digits : Int) + (exact x).exponent ∧
      (digitCount (exact x).digits : Int) + (exact x).exponent ≤ 400 := by
  have he : (exact x).exponent = -1074 := rfl
  have hd : (exact x).digits = x.magnitude * Nat.pow 5 1074 := rfl
  have hlow : 673 < digitCount (exact x).digits := by
    rw [← Nat.not_le, digitCount_le_iff (by decide), Nat.not_lt, hd]
    calc 10 ^ 673 ≤ Nat.pow 5 1074 := by decide +kernel
      _ ≤ x.magnitude * Nat.pow 5 1074 := Nat.le_mul_of_pos_left _ (Nat.pos_of_ne_zero h)
  have hhigh : digitCount (exact x).digits ≤ 1474 := by
    rw [digitCount_le_iff (by decide), hd]
    calc x.magnitude * Nat.pow 5 1074 < 2 ^ 2098 * Nat.pow 5 1074 :=
          Nat.mul_lt_mul_of_pos_right (magnitude_lt x) five_pow_pos
      _ ≤ 10 ^ 1474 := by decide +kernel
  rw [he]
  omega

theorem unitsPerOne_mul : Nat.pow 5 1074 * Double.unitsPerOne = 10 ^ 1074 := by decide +kernel

theorem ratio_exact (x : Double) : (exact x).ratio = (x.magnitude * 10 ^ 1074, 10 ^ 1074) := by
  have he : (-(exact x).exponent).toNat = 1074 ∧ (exact x).exponent.toNat = 0 := ⟨rfl, rfl⟩
  have hd : (exact x).digits = x.magnitude * Nat.pow 5 1074 := rfl
  rw [ratio_eq, he.1, he.2, hd, Nat.pow_zero, Nat.mul_one, Nat.mul_assoc, unitsPerOne_mul]

theorem toDouble?_exact {x : Double} (h : x.magnitude ≠ 0) : (exact x).toDouble? = some x := by
  obtain ⟨hlow, hhigh⟩ := size_exact h
  have hne : (exact x).digits ≠ 0 := Nat.mul_ne_zero h (Nat.ne_of_gt five_pow_pos)
  unfold toDouble?
  rw [if_neg hne, if_neg (Int.not_lt.mpr hhigh), if_neg (Int.not_lt.mpr hlow), ratio_exact]
  exact Double.nearest?_magnitude x (by positivity)

theorem eq_zero_of_magnitude {x : Double} (h : x.magnitude = 0) : x = .zero x.negative := by
  rw [Double.magnitude_eq] at h
  have hm : x.mantissa = 0 := (Nat.mul_eq_zero.mp h).resolve_right (by positivity)
  have he : x.exponent = 0 := x.exponent_eq_zero (by omega)
  obtain ⟨s, m, e, _, _, _⟩ := x
  obtain rfl : m = 0 := hm
  obtain rfl : e = 0 := he
  rfl

/-- The digits that are written for a double read back as it. -/
theorem toDouble?_shortest (x : Double) : (shortest x).toDouble? = some x := by
  unfold shortest
  split
  · rename_i h
    exact congrArg some (eq_zero_of_magnitude h).symm
  · rename_i h
    -- either the search found digits, which it has read back, or all digits are taken
    rcases hs : (List.range 17).findSome? fun i => withDigits? x (i + 1) with _ | d
    · exact toDouble?_exact h
    · obtain ⟨i, -, hi⟩ := List.exists_of_findSome?_eq_some hs
      exact toDouble?_of_withDigits? hi

end Decimal

end PathQuery
