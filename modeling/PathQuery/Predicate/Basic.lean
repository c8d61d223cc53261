import PathQuery.Entry.Basic
import PathQuery.Pattern.Basic

/-! # Predicates

A predicate is a test of one value.  Its leaves look at one field of an object: they
compare the scalars stored there, match the strings among them with a pattern, or ask
whether the field is there.  A field that holds an array stands for the array's scalar
elements, and one of them has to pass. -/
namespace PathQuery

/-- The ways of comparing. -/
inductive Comparison where
  | eq
  | ne
  | gt
  | lt
  | ge
  | le
  deriving DecidableEq, Repr

/-- A test of a value. -/
inductive Predicate where
  | compare (field : String) (op : Comparison) (expected : Document)
  | like (field : String) (pattern : Pattern)
  | has (field : String)
  | and (p q : Predicate)
  | or (p q : Predicate)
  | not (p : Predicate)

namespace Json

/-- How two scalars of one kind compare; scalars of different kinds, null and composites
do not. -/
def order? : Json → Json → Option Ordering
  | number a, number b => some (a.order b)
  | string a, string b => some (Ord.compare a b)
  | bool a, bool b => some (Ord.compare a b)
  | _, _ => none

/-- Whether two values are equal in a comparison: numbers by their value. -/
def equal : Json → Json → Bool
  | number a, number b => a.order b == .eq
  | v, w => v.same w

/-- The scalars stored under `field`: the member, or the elements of an array. -/
def fieldScalars (field : String) (v : Json) : List Json :=
  match v.member? field with
  | some (array items) => items.filter isScalar
  | some w => [w].filter isScalar
  | none => []

end Json

namespace Comparison

/-- Whether a value compares so with another. -/
def holds (v w : Json) : Comparison → Bool
  | eq => v.equal w
  | ne => !v.equal w
  | gt => v.order? w == some .gt
  | lt => v.order? w == some .lt
  | ge => v.order? w == some .gt || v.order? w == some .eq
  | le => v.order? w == some .lt || v.order? w == some .eq

end Comparison

namespace Predicate

/-- Whether a value satisfies the predicate. -/
def holds (v : Json) : Predicate → Bool
  | compare field op expected => (v.fieldScalars field).any fun w => op.holds w expected.value
  | like field pattern =>
    (v.fieldScalars field).any fun w =>
      match w with
      | .string s => pattern.matchesText s
      | _ => false
  | has field => (v.member? field).isSome
  | and p q => holds v p && holds v q
  | or p q => holds v p || holds v q
  | not p => !holds v p

/-- Whether an entry satisfies the predicate. -/
def test (p : Predicate) (e : Entry) : Bool := p.holds e.value

/-- Whether a field holds a given value. -/
def hasValue (field : String) (expected : Document) : Predicate := compare field .eq expected

/-- The predicate that matches a field with the pattern of a given source. -/
def matching? (field source : String) : Option Predicate :=
  (Pattern.compile? source).map (like field)

/-- Whether two predicates are the same: expected values as documents, patterns by their
source. -/
def same : Predicate → Predicate → Bool
  | compare f o v, compare g r w => f == g && o == r && v.same w
  | like f p, like g q => f == g && p.source == q.source
  | has f, has g => f == g
  | and p q, and r s => same p r && same q s
  | or p q, or r s => same p r && same q s
  | not p, not q => same p q
  | _, _ => false

@[simp] theorem holds_and (v : Json) (p q : Predicate) :
    (and p q).holds v = (p.holds v && q.holds v) := rfl

@[simp] theorem holds_or (v : Json) (p q : Predicate) :
    (or p q).holds v = (p.holds v || q.holds v) := rfl

@[simp] theorem holds_not (v : Json) (p : Predicate) : (not p).holds v = !p.holds v := rfl

end Predicate

end PathQuery
