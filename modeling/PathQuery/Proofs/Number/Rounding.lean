import Mathlib.Tactic.Linarith
import Mathlib.Tactic.Positivity
import Mathlib.Tactic.Ring
import PathQuery.Number.Basic

/-! # Rounding to doubles

What `Double.nearestParts` does to a quotient, as three laws: a value that is a double
stays as it is (`nearestParts_magnitude`), a quotient may be scaled
(`nearestParts_scale`), and a greater quotient is not rounded to less
(`nearestMagnitude_mono`).  The last is not obvious from the definition, because the two
values may be rounded to grids of different width; they are then on either side of a power
of two that is on both grids.

With a sign the laws say that `roundedUnits` is a monotone function of `exactUnits` that
leaves the values of doubles alone. -/
namespace PathQuery
namespace Double

theorem magnitude_eq (x : Double) : x.magnitude = x.mantissa * 2 ^ x.exponent := rfl

theorem mantissa_lt_pow (x : Double) : x.mantissa < 2 ^ 53 := x.mantissa_lt

theorem exponent_eq_zero (x : Double) (h : x.mantissa < 2 ^ 52) : x.exponent = 0 :=
  x.normal.resolve_right (Nat.not_le.mpr h)

theorem unitsPerOne_pos : 0 < unitsPerOne := by decide +kernel

/-! ### Rounding to whole numbers -/

theorem roundHalfEven_cases (n d : Nat) :
    roundHalfEven n d = n / d ∨ roundHalfEven n d = n / d + 1 := by
  unfold roundHalfEven
  grind

/-- A whole number is not rounded. -/
theorem roundHalfEven_mul (m : Nat) {d : Nat} (hd : 0 < d) : roundHalfEven (m * d) d = m := by
  simp [roundHalfEven, Nat.mul_div_cancel _ hd, hd]

theorem roundHalfEven_scale {k : Nat} (hk : 0 < k) (n d : Nat) :
    roundHalfEven (k * n) (k * d) = roundHalfEven n d := by
  have hlow : 2 * (k * (n % d)) < k * d ↔ 2 * (n % d) < d := by
    rw [Nat.mul_left_comm]
    exact Nat.mul_lt_mul_left hk
  have hhigh : k * d < 2 * (k * (n % d)) ↔ d < 2 * (n % d) := by
    rw [Nat.mul_left_comm]
    exact Nat.mul_lt_mul_left hk
  simp only [roundHalfEven, Nat.mul_div_mul_left _ _ hk, Nat.mul_mod_mul_left, hlow, hhigh]

theorem roundHalfEven_mono {n m : Nat} (h : n ≤ m) (d : Nat) :
    roundHalfEven n d ≤ roundHalfEven m d := by
  rcases Nat.lt_or_ge (n / d) (m / d) with hq | hq
  · rcases roundHalfEven_cases n d with hn | hn <;> rcases roundHalfEven_cases m d with hm | hm <;>
      omega
  · -- with the same quotient, only the remainders differ
    have he : n / d = m / d := Nat.le_antisymm (Nat.div_le_div_right h) hq
    have hr : n % d ≤ m % d := by
      have hn := Nat.div_add_mod n d
      have hm := Nat.div_add_mod m d
      rw [he] at hn
      omega
    unfold roundHalfEven
    grind

/-! ### Rounding to doubles -/

/-- The exponent of the grid that `n / d` is rounded to. -/
def gridExponent (n d : Nat) : Nat := (n / d).log2 - 52

theorem nearestParts_eq (n d : Nat) :
    nearestParts n d =
      if roundHalfEven n (d * 2 ^ gridExponent n d) = 2 ^ 53 then
        (2 ^ 52, gridExponent n d + 1)
      else (roundHalfEven n (d * 2 ^ gridExponent n d), gridExponent n d) := rfl

theorem nearestMagnitude_eq_parts (n d : Nat) :
    nearestMagnitude n d = (nearestParts n d).1 * 2 ^ (nearestParts n d).2 := rfl

/-- Moving on to the next exponent does not change the magnitude. -/
theorem nearestMagnitude_eq (n d : Nat) :
    nearestMagnitude n d =
      roundHalfEven n (d * 2 ^ gridExponent n d) * 2 ^ gridExponent n d := by
  rw [nearestMagnitude_eq_parts, nearestParts_eq]
  split
  · rename_i h
    rw [h]
    ring
  · rfl

theorem nearestParts_scale {k : Nat} (hk : 0 < k) (n d : Nat) :
    nearestParts (k * n) (k * d) = nearestParts n d := by
  have he : gridExponent (k * n) (k * d) = gridExponent n d := by
    rw [gridExponent, Nat.mul_div_mul_left _ _ hk, gridExponent]
  rw [nearestParts_eq, nearestParts_eq, he, Nat.mul_assoc, roundHalfEven_scale hk]

/-- Only the quotient matters. -/
theorem nearest?_congr {n d m c : Nat} (hd : 0 < d) (hc : 0 < c) (h : n * c = m * d)
    (negative : Bool) : nearest? negative n d = nearest? negative m c := by
  have hparts : nearestParts n d = nearestParts m c := by
    calc nearestParts n d = nearestParts (c * n) (c * d) := (nearestParts_scale hc n d).symm
      _ = nearestParts (d * m) (d * c) := by
        rw [Nat.mul_comm c n, h, Nat.mul_comm m, Nat.mul_comm c]
      _ = nearestParts m c := nearestParts_scale hd m c
  simp only [nearest?, hparts]

theorem log2_magnitude {x : Double} (h : 2 ^ 52 ≤ x.mantissa) :
    x.magnitude.log2 = 52 + x.exponent := by
  have hm : x.magnitude ≠ 0 := by
    rw [magnitude_eq]
    exact Nat.mul_ne_zero (by omega) (by positivity)
  rw [Nat.log2_eq_iff hm, magnitude_eq]
  constructor
  · rw [Nat.pow_add]
    exact Nat.mul_le_mul_right _ h
  · rw [Nat.add_right_comm, Nat.pow_add]
    exact Nat.mul_lt_mul_of_pos_right x.mantissa_lt_pow (by positivity)

/-- The grid of a double's value is its own. -/
theorem gridExponent_magnitude (x : Double) {d : Nat} (hd : 0 < d) :
    gridExponent (x.magnitude * d) d = x.exponent := by
  rw [gridExponent, Nat.mul_div_cancel _ hd]
  by_cases h : 2 ^ 52 ≤ x.mantissa
  · rw [log2_magnitude h, Nat.add_sub_cancel_left]
  · -- a mantissa this short stands on the least grid
    have he : x.exponent = 0 := x.exponent_eq_zero (Nat.not_le.mp h)
    have hlog : x.magnitude.log2 ≤ 52 := by
      rw [magnitude_eq, he, Nat.pow_zero, Nat.mul_one]
      by_cases hz : x.mantissa = 0
      · simp [hz]
      · exact Nat.lt_succ_iff.mp ((Nat.log2_lt hz).mpr x.mantissa_lt_pow)
    rw [he, Nat.sub_eq_zero_of_le hlog]

/-- The value of a double is rounded to that double. -/
theorem nearestParts_magnitude (x : Double) {d : Nat} (hd : 0 < d) :
    nearestParts (x.magnitude * d) d = (x.mantissa, x.exponent) := by
  have hround : roundHalfEven (x.magnitude * d) (d * 2 ^ x.exponent) = x.mantissa := by
    rw [magnitude_eq, Nat.mul_assoc, Nat.mul_comm (2 ^ x.exponent)]
    exact roundHalfEven_mul _ (by positivity)
  rw [nearestParts_eq, gridExponent_magnitude x hd, hround,
    if_neg (Nat.ne_of_lt x.mantissa_lt_pow)]

theorem nearest?_magnitude (x : Double) {d : Nat} (hd : 0 < d) :
    nearest? x.negative (x.magnitude * d) d = some x := by
  have h := nearestParts_magnitude x hd
  simp [nearest?, h, x.mantissa_lt, x.exponent_le, x.normal]

theorem nearestMagnitude_magnitude (x : Double) : nearestMagnitude x.magnitude 1 = x.magnitude := by
  have h := nearestParts_magnitude x Nat.one_pos
  rw [Nat.mul_one] at h
  rw [nearestMagnitude_eq_parts, h, magnitude_eq]

/-! ### Monotony -/

theorem gridExponent_mono {n m : Nat} (h : n ≤ m) (d : Nat) :
    gridExponent n d ≤ gridExponent m d := by
  have hq : n / d ≤ m / d := Nat.div_le_div_right h
  by_cases hn : n / d = 0
  · simp [gridExponent, hn]
  · have hm : m / d ≠ 0 := Nat.ne_of_gt (Nat.lt_of_lt_of_le (Nat.pos_of_ne_zero hn) hq)
    have hlog : (n / d).log2 ≤ (m / d).log2 :=
      (Nat.le_log2 hm).mpr (Nat.le_trans (Nat.log2_self_le hn) hq)
    exact Nat.sub_le_sub_right hlog 52

/-- What is rounded has 53 bits at most before the point. -/
theorem roundHalfEven_le (n : Nat) {d : Nat} (hd : 0 < d) :
    roundHalfEven n (d * 2 ^ gridExponent n d) ≤ 2 ^ 53 := by
  have hlt : n / d < 2 ^ (53 + gridExponent n d) := by
    by_cases hn : n / d = 0
    · rw [hn]
      positivity
    · rw [← Nat.log2_lt hn, gridExponent]
      omega
  have hle : n ≤ 2 ^ 53 * (d * 2 ^ gridExponent n d) := by
    rw [Nat.div_lt_iff_lt_mul hd, Nat.pow_add] at hlt
    calc n ≤ 2 ^ 53 * 2 ^ gridExponent n d * d := hlt.le
      _ = _ := by ring
  calc roundHalfEven n (d * 2 ^ gridExponent n d)
      ≤ roundHalfEven (2 ^ 53 * (d * 2 ^ gridExponent n d)) (d * 2 ^ gridExponent n d) :=
        roundHalfEven_mono hle _
    _ = 2 ^ 53 := roundHalfEven_mul _ (by positivity)

/-- On any grid but the least, what is rounded has 53 bits before the point. -/
theorem le_roundHalfEven {n d : Nat} (hd : 0 < d) (he : 0 < gridExponent n d) :
    2 ^ 52 ≤ roundHalfEven n (d * 2 ^ gridExponent n d) := by
  have hn : n / d ≠ 0 := by
    intro h
    simp [gridExponent, h] at he
  have hlog : (n / d).log2 = 52 + gridExponent n d := by
    rw [gridExponent] at he ⊢
    omega
  have hle : 2 ^ 52 * (d * 2 ^ gridExponent n d) ≤ n := by
    calc 2 ^ 52 * (d * 2 ^ gridExponent n d) = 2 ^ (n / d).log2 * d := by rw [hlog]; ring
      _ ≤ n / d * d := Nat.mul_le_mul_right _ (Nat.log2_self_le hn)
      _ ≤ n := Nat.div_mul_le_self n d
  calc 2 ^ 52 = roundHalfEven (2 ^ 52 * (d * 2 ^ gridExponent n d)) (d * 2 ^ gridExponent n d) :=
        (roundHalfEven_mul _ (by positivity)).symm
    _ ≤ _ := roundHalfEven_mono hle _

/-- A greater quotient is not rounded to less. -/
theorem nearestMagnitude_mono {n m d : Nat} (hd : 0 < d) (h : n ≤ m) :
    nearestMagnitude n d ≤ nearestMagnitude m d := by
  rw [nearestMagnitude_eq, nearestMagnitude_eq]
  rcases Nat.eq_or_lt_of_le (gridExponent_mono h d) with he | he
  · rw [he]
    exact Nat.mul_le_mul_right _ (roundHalfEven_mono h _)
  · -- the power of two in between is on both grids
    calc roundHalfEven n (d * 2 ^ gridExponent n d) * 2 ^ gridExponent n d
        ≤ 2 ^ 53 * 2 ^ gridExponent n d := Nat.mul_le_mul_right _ (roundHalfEven_le n hd)
      _ = 2 ^ 52 * 2 ^ (gridExponent n d + 1) := by ring
      _ ≤ 2 ^ 52 * 2 ^ gridExponent m d :=
        Nat.mul_le_mul_left _ (Nat.pow_le_pow_right (by decide) he)
      _ ≤ roundHalfEven m (d * 2 ^ gridExponent m d) * 2 ^ gridExponent m d :=
        Nat.mul_le_mul_right _ (le_roundHalfEven hd (Nat.zero_lt_of_lt he))

/-! ### With a sign -/

/-- The value of the double nearest to a whole number of units. -/
def nearestUnits (n : Int) : Int := signed (n < 0) (nearestMagnitude n.natAbs 1)

theorem nearestUnits_of_nonneg {n : Int} (h : 0 ≤ n) :
    nearestUnits n = nearestMagnitude n.natAbs 1 := by
  simp [nearestUnits, signed, Int.not_lt.mpr h]

theorem nearestUnits_of_neg {n : Int} (h : n < 0) :
    nearestUnits n = -(nearestMagnitude n.natAbs 1 : Int) := by
  simp [nearestUnits, signed, h]

theorem nearestUnits_mono {n m : Int} (h : n ≤ m) : nearestUnits n ≤ nearestUnits m := by
  rcases Int.lt_or_le m 0 with hm | hm
  · have hmag := nearestMagnitude_mono Nat.one_pos (show m.natAbs ≤ n.natAbs by omega)
    rw [nearestUnits_of_neg hm, nearestUnits_of_neg (by omega)]
    omega
  · rw [nearestUnits_of_nonneg hm]
    rcases Int.lt_or_le n 0 with hn | hn
    · rw [nearestUnits_of_neg hn]
      omega
    · have hmag := nearestMagnitude_mono Nat.one_pos (show n.natAbs ≤ m.natAbs by omega)
      rw [nearestUnits_of_nonneg hn]
      omega

theorem nearestUnits_units (x : Double) : nearestUnits x.units = x.units := by
  have habs : x.units.natAbs = x.magnitude := by
    unfold units signed
    split <;> simp
  rw [nearestUnits, habs, nearestMagnitude_magnitude]
  unfold units signed
  grind

end Double

namespace Number

/-- A number is compared by rounding its exact value. -/
theorem roundedUnits_eq (a : Number) : a.roundedUnits = Double.nearestUnits a.exactUnits := by
  cases a with
  | int n _ =>
    have hpos : 0 < (Double.unitsPerOne : Int) := Int.natCast_pos.mpr Double.unitsPerOne_pos
    have hsign : n * Double.unitsPerOne < 0 ↔ n < 0 :=
      ⟨fun h => by nlinarith, fun h => Int.mul_neg_of_neg_of_pos h hpos⟩
    simp only [roundedUnits, exactUnits, Double.nearestUnits, Int.natAbs_mul, Int.natAbs_natCast,
      hsign]
  | double x => exact (Double.nearestUnits_units x).symm

theorem roundedUnits_mono {a b : Number} (h : a.exactUnits ≤ b.exactUnits) :
    a.roundedUnits ≤ b.roundedUnits := by
  rw [roundedUnits_eq, roundedUnits_eq]
  exact Double.nearestUnits_mono h

end Number

end PathQuery
