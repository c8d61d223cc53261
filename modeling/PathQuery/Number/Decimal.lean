import PathQuery.Number.Double
import PathQuery.Text.Word

/-! # Decimal numerals

A decimal numeral is a whole number of digits and a power of ten.  `toDouble?` reads
it as the nearest double, `shortest` writes a double with the fewest digits that
read back, and `chars` lays digits out as text after the rules of a `Layout`. -/
namespace PathQuery

/-- The number `± digits · 10 ^ exponent`. -/
structure Decimal where
  negative : Bool
  digits : Nat
  exponent : Int
  deriving DecidableEq, Repr

namespace Decimal

open Text

/-- The value of a decimal digit. -/
def digitValue (c : Char) : Nat := c.toNat - '0'.toNat

/-- The value of a row of decimal digits. -/
def digitsValue (cs : List Char) : Nat := cs.foldl (fun n c => 10 * n + digitValue c) 0

/-- How many decimal digits `n` is written with. -/
def digitCount (n : Nat) : Nat := (Nat.toDigits 10 n).length

/-- The value in units of the least double, as a quotient of natural numbers. -/
def ratio (d : Decimal) : Nat × Nat :=
  if 0 ≤ d.exponent then (d.digits * Nat.pow 10 d.exponent.toNat * Double.unitsPerOne, 1)
  else (d.digits * Double.unitsPerOne, Nat.pow 10 (-d.exponent).toNat)

/-- The nearest double; `none` when the numeral is out of range.  Numerals that are
out of range by far, on either side, are settled without forming their power of ten. -/
def toDouble? (d : Decimal) : Option Double :=
  if d.digits = 0 then some (.zero d.negative)
  else
    let size : Int := digitCount d.digits + d.exponent
    if 400 < size then none
    else if size < -400 then some (.zero d.negative)
    else Double.nearest? d.negative d.ratio.1 d.ratio.2

/-! ### The fewest digits that read back -/

/-- Whether `10 ^ p ≤ n / d`. -/
def reaches (n d : Nat) (p : Int) : Bool :=
  if 0 ≤ p then d * Nat.pow 10 p.toNat ≤ n else d ≤ n * Nat.pow 10 (-p).toNat

/-- The power of ten of the first digit of `n / d`, for positive `n` and `d`. -/
def leadingPower (n d : Nat) : Int :=
  let p : Int := (digitCount n : Int) - digitCount d
  if reaches n d p then p else p - 1

/-- The quotient `n / d` measured in steps of `10 ^ k`. -/
def inSteps (n d : Nat) (k : Int) : Nat × Nat :=
  if 0 ≤ k then (n, d * Nat.pow 10 k.toNat) else (n * Nat.pow 10 (-k).toNat, d)

/-- The numeral of `count` digits that reads back as `x`, if there is one: of the
value's two neighbours on that decimal grid the nearer, and the even one of two that
are equally near. -/
def withDigits? (x : Double) (count : Nat) : Option Decimal :=
  let k := leadingPower x.magnitude Double.unitsPerOne - count + 1
  let s := inSteps x.magnitude Double.unitsPerOne k
  let q := s.1 / s.2
  let r := s.1 % s.2
  let low : Decimal := ⟨x.negative, q, k⟩
  let high : Decimal := ⟨x.negative, q + 1, k⟩
  let preferLow := 2 * r < s.2 || (2 * r == s.2 && q % 2 == 0)
  let near := if preferLow then low else high
  let far := if preferLow then high else low
  if near.toDouble? = some x then some near
  else if far.toDouble? = some x then some far
  else none

/-- All digits of a double's value. -/
def exact (x : Double) : Decimal := ⟨x.negative, x.magnitude * Nat.pow 5 1074, -1074⟩

/-- The numeral with the fewest digits that reads back as `x`; 17 digits always do. -/
def shortest (x : Double) : Decimal :=
  if x.magnitude = 0 then ⟨x.negative, 0, 0⟩
  else ((List.range 17).findSome? fun i => withDigits? x (i + 1)).getD (exact x)

/-! ### Text -/

/-- How decimal numerals are laid out.  `point` is the place of the decimal point,
counted from the first digit; between the two bounds a numeral is written in
positional form, and elsewhere with a power of ten. -/
structure Layout where
  leastPoint : Int
  greatestPoint : Int
  plusBeforeExponent : Bool
  deriving DecidableEq, Repr

/-- Digits without the zeros at their end, and how many zeros those were. -/
def trimZeros (ds : List Char) : List Char × Nat :=
  let kept := (ds.reverse.dropWhile (· == '0')).reverse
  (kept, ds.length - kept.length)

/-- The text of an exponent. -/
def exponentChars (l : Layout) (e : Int) : List Char :=
  let sign := if e < 0 then ['-'] else if l.plusBeforeExponent then ['+'] else []
  'e' :: sign ++ Nat.toDigits 10 e.natAbs

/-- The digits `ds` with the decimal point at `point`. -/
def positional (ds : List Char) (point : Int) : List Char :=
  if point ≤ 0 then '0' :: '.' :: List.replicate (-point).toNat '0' ++ ds
  else if ds.length ≤ point.toNat then
    ds ++ List.replicate (point.toNat - ds.length) '0' ++ ['.', '0']
  else ds.take point.toNat ++ '.' :: ds.drop point.toNat

/-- The digits `ds` with the decimal point after the first, and a power of ten. -/
def scientific (l : Layout) (ds : List Char) (point : Int) : List Char :=
  let fraction := if ds.length ≤ 1 then [] else '.' :: ds.drop 1
  ds.take 1 ++ fraction ++ exponentChars l (point - 1)

/-- The text of a numeral. -/
def chars (l : Layout) (d : Decimal) : List Char :=
  let sign := if d.negative then ['-'] else []
  if d.digits = 0 then sign ++ ['0', '.', '0']
  else
    let t := trimZeros (Nat.toDigits 10 d.digits)
    let point : Int := t.1.length + (d.exponent + t.2)
    if l.leastPoint ≤ point ∧ point ≤ l.greatestPoint then sign ++ positional t.1 point
    else sign ++ scientific l t.1 point

/-! ### Reading -/

/-- A sign taken off the front, and whether it was a minus. -/
def takeSign : List Char → Bool × List Char
  | '-' :: r => (true, r)
  | '+' :: r => (false, r)
  | r => (false, r)

/-- A whole number: a sign or none, and at least one digit. -/
def readInt? (s : List Char) : Option Int :=
  let (negative, r) := takeSign s
  if r ≠ [] ∧ r.all isDigit then some (signed negative (digitsValue r)) else none

/-- A fraction taken off the front: a point and the digits after it. -/
def takeFraction : List Char → List Char × List Char
  | '.' :: r => (r.takeWhile isDigit, r.dropWhile isDigit)
  | r => ([], r)

/-- An exponent that is the whole text, or none when the text is empty. -/
def readExponent? : List Char → Option Int
  | [] => some 0
  | c :: r => if c = 'e' ∨ c = 'E' then readInt? r else none

/-- A numeral in its loosest form: a sign or none, digits with at most one point
among, before or after them, and an exponent or none. -/
def read? (s : List Char) : Option Decimal :=
  let (negative, s) := takeSign s
  let whole := s.takeWhile isDigit
  let (fraction, rest) := takeFraction (s.dropWhile isDigit)
  if whole = [] ∧ fraction = [] then none
  else (readExponent? rest).map fun e =>
    ⟨negative, digitsValue (whole ++ fraction), e - fraction.length⟩

end Decimal

end PathQuery
