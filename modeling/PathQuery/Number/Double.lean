/-! # Finite doubles

A finite double-precision number as exact integer data.  Every one of them is a
whole multiple of the least positive double, `2 ^ -1074`, which is the *unit* here:
`units` is the number's exact value in that unit, so two doubles are compared by
comparing integers.  `nearest?` rounds a quotient of natural numbers to the nearest
double, and to the even mantissa when it lies halfway. -/
namespace PathQuery

/-- A finite double, `± mantissa · 2 ^ exponent` units.  The mantissa has 53 bits, or
fewer when the exponent is the least one; so each value but zero has one form, and
zero has one for either sign. -/
structure Double where
  negative : Bool
  mantissa : Nat
  exponent : Nat
  mantissa_lt : mantissa < Nat.pow 2 53
  exponent_le : exponent ≤ 2045
  normal : exponent = 0 ∨ Nat.pow 2 52 ≤ mantissa
  deriving DecidableEq, Repr

/-- A sign put before a natural number. -/
def signed (negative : Bool) (n : Nat) : Int := if negative then -(n : Int) else n

namespace Double

/-- How many units make one. -/
def unitsPerOne : Nat := Nat.pow 2 1074

/-- The magnitude in units. -/
def magnitude (x : Double) : Nat := x.mantissa * Nat.pow 2 x.exponent

/-- The exact value in units. -/
def units (x : Double) : Int := signed x.negative x.magnitude

/-- Zero with a sign. -/
def zero (negative : Bool) : Double where
  negative := negative
  mantissa := 0
  exponent := 0
  mantissa_lt := by decide
  exponent_le := by decide
  normal := Or.inl rfl

/-- The natural number nearest to `n / d`, the even one of two. -/
def roundHalfEven (n d : Nat) : Nat :=
  let q := n / d
  let r := n % d
  if 2 * r < d then q
  else if d < 2 * r then q + 1
  else if q % 2 = 0 then q else q + 1

/-- Mantissa and exponent of the double nearest to `n / d` units, were there no
greatest exponent.  The exponent is the one that leaves 53 bits before the point;
rounding up to `2 ^ 53` moves on to the next. -/
def nearestParts (n d : Nat) : Nat × Nat :=
  let e := (n / d).log2 - 52
  let m := roundHalfEven n (d * Nat.pow 2 e)
  if m = Nat.pow 2 53 then (Nat.pow 2 52, e + 1) else (m, e)

/-- The magnitude, in units, of the double nearest to `n / d` units. -/
def nearestMagnitude (n d : Nat) : Nat :=
  (nearestParts n d).1 * Nat.pow 2 (nearestParts n d).2

/-- The double nearest to `n / d` units, with a sign; `none` when it is out of range. -/
def nearest? (negative : Bool) (n d : Nat) : Option Double :=
  let p := nearestParts n d
  if h : p.1 < Nat.pow 2 53 ∧ p.2 ≤ 2045 ∧ (p.2 = 0 ∨ Nat.pow 2 52 ≤ p.1) then
    some ⟨negative, p.1, p.2, h.1, h.2.1, h.2.2⟩
  else
    none

example : (nearest? false 3 2).map units = some 2 := by decide
example : (nearest? false 5 2).map units = some 2 := by decide
example : (nearest? true 1 2).map units = some 0 := by decide
example : (nearest? false 9007199254740993 1).map units = some 9007199254740992 := by decide
example : (nearest? false 9007199254740995 1).map units = some 9007199254740996 := by decide

end Double

end PathQuery
