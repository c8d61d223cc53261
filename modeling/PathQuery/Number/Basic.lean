import PathQuery.Number.Decimal

/-! # Numbers of a document

A number is a 64-bit integer, of either signedness, or a finite double.  The two
stay apart: `1` and `1.0` are different numbers, though they compare as equal.

Two integers that fit the signed 64-bit range are compared as they are; every other
pair is compared after both have been rounded to doubles. -/
namespace PathQuery

/-- A number of a document.  An integer is at least `-2 ^ 63` and less than `2 ^ 64`. -/
inductive Number where
  | int (n : Int) (fits : -9223372036854775808 ≤ n ∧ n < 18446744073709551616)
  | double (x : Double)
  deriving DecidableEq, Repr

namespace Number

/-- The integer as a number, if it is in the 64-bit range of either signedness. -/
def ofInt? (n : Int) : Option Number :=
  if h : -9223372036854775808 ≤ n ∧ n < 18446744073709551616 then some (.int n h) else none

/-- Whether an integer is in the signed 64-bit range, from `-2 ^ 63` to below `2 ^ 63`. -/
def fitsSigned (n : Int) : Bool := -9223372036854775808 ≤ n && n < 9223372036854775808

/-- The value as a signed 64-bit integer, if it is one. -/
def signed64? : Number → Option Int
  | .int n _ => if fitsSigned n then some n else none
  | .double _ => none

/-- The value of the nearest double, in its units. -/
def roundedUnits : Number → Int
  | .int n _ => signed (n < 0) (Double.nearestMagnitude (n.natAbs * Double.unitsPerOne) 1)
  | .double x => x.units

/-- The exact value, in units of the least double. -/
def exactUnits : Number → Int
  | .int n _ => n * Double.unitsPerOne
  | .double x => x.units

/-- How two numbers compare. -/
def order (a b : Number) : Ordering :=
  match a.signed64?, b.signed64? with
  | some i, some j => compare i j
  | _, _ => compare a.roundedUnits b.roundedUnits

/-- Whether two numbers are the same: an integer is never a double, and the two zeros
are one. -/
def same : Number → Number → Bool
  | .int n _, .int m _ => n == m
  | .double x, .double y => x.units == y.units
  | _, _ => false

/-- Numbers are written in positional form from `0.00001` up to 16 digits before the
point; a positive exponent has a plus sign. -/
def layout : Decimal.Layout := ⟨-4, 16, true⟩

/-- The digits of an integer, after a minus sign if it is negative. -/
def intChars (n : Int) : List Char :=
  if n < 0 then '-' :: Nat.toDigits 10 n.natAbs else Nat.toDigits 10 n.natAbs

/-- The text of a number. -/
def chars : Number → List Char
  | .int n _ => intChars n
  | .double x => (Decimal.shortest x).chars layout

end Number

end PathQuery
