import Mathlib.Tactic.NormNum
import PathQuery.Predicate.Basic
import PathQuery.Proofs.Number.Value

/-! # Comparing numbers

A comparison of a field with a number is meant to hold when the values stand in the
relation that the operator names.  It does for numbers that are `Separated`.  Two others
are taken for equal, so between them the operators that admit equality hold and the rest do
not, whatever their values: `9223372036854775809` counts as equal to
`9223372036854775808`. -/
namespace PathQuery

namespace Comparison

/-- The relation that a comparison names. -/
def Relates {α : Type} [LinearOrder α] (x y : α) : Comparison → Prop
  | eq => x = y
  | ne => x ≠ y
  | gt => y < x
  | lt => x < y
  | ge => y ≤ x
  | le => x ≤ y

/-- A comparison of two numbers is the relation it names, between any two values that are
ordered as the numbers are. -/
theorem holds_number_iff {α : Type} [LinearOrder α] {x y : α} {a b : Number}
    (h : a.order b = cmp x y) (op : Comparison) :
    op.holds (.number a) (.number b) = true ↔ op.Relates x y := by
  rcases lt_trichotomy x y with hlt | heq | hgt
  · rw [(cmp_eq_lt_iff x y).mpr hlt] at h
    cases op <;> simp [holds, Json.equal, Json.order?, Relates, h, hlt, hlt.le, hlt.ne, not_lt]
  · rw [(cmp_eq_eq_iff x y).mpr heq] at h
    cases op <;> simp [holds, Json.equal, Json.order?, Relates, h, heq]
  · rw [(cmp_eq_gt_iff x y).mpr hgt] at h
    cases op <;> simp [holds, Json.equal, Json.order?, Relates, h, hgt, hgt.le, hgt.ne', not_lt]

/-- Numbers that are not kept apart are compared as a value with itself. -/
theorem holds_number_of_not_separated {a b : Number} (h : ¬ a.Separated b) (op : Comparison) :
    op.holds (.number a) (.number b) = true ↔ op.Relates b.value b.value := by
  refine holds_number_iff ?_ op
  rw [Number.order_of_not_separated h, cmp_self_eq_eq]

end Comparison

namespace Document

/-- A number as a document. -/
def ofNumber (n : Number) : Document := ⟨.number n, trivial⟩

end Document

namespace Predicate

/-- A field that holds a scalar is compared with that scalar alone. -/
theorem test_compare_scalar {field : String} {e : Entry} {v : Json}
    (hv : e.value.member? field = some v) (hs : v.isScalar = true)
    (op : Comparison) (expected : Document) :
    (compare field op expected).test e = op.holds v expected.value := by
  have hscalars : e.value.fieldScalars field = [v] := by
    unfold Json.fieldScalars
    rw [hv]
    cases v <;> first | rfl | cases hs
  simp [test, holds, hscalars]

/-- Comparing a stored number by `op` gives the relation of the values, wherever it is
stored, exactly if the two numbers are kept apart or are related as equal numbers are. -/
theorem compare_exact_iff (op : Comparison) (a b : Number) :
    (∀ (field : String) (e : Entry), e.value.member? field = some (.number a) →
        ((compare field op (.ofNumber b)).test e = true ↔ op.Relates a.value b.value)) ↔
      a.Separated b ∨ (op.Relates a.value b.value ↔ op.Relates b.value b.value) := by
  have htest (field : String) (e : Entry) (he : e.value.member? field = some (.number a)) :
      (compare field op (.ofNumber b)).test e = op.holds (.number a) (.number b) :=
    test_compare_scalar he rfl op (.ofNumber b)
  by_cases hsep : a.Separated b
  · have hexact := Comparison.holds_number_iff (Number.order_of_separated hsep) op
    refine iff_of_true (fun field e he => ?_) (Or.inl hsep)
    rw [htest field e he, hexact]
  · have hequal := Comparison.holds_number_of_not_separated hsep op
    constructor
    · intro h
      -- an object with that number as its only member
      have hmember : (Json.object [("n", .number a)]).member? "n" = some (.number a) := rfl
      have hself := h "n" (.root (.object [("n", .number a)])) hmember
      rw [htest _ _ hmember, hequal] at hself
      exact Or.inr hself.symm
    · intro h field e he
      rw [htest field e he, hequal, h.resolve_left hsep]

/-- Two neighbours in the upper half of the unsigned 64-bit range are found equal. -/
theorem compare_not_exact :
    ¬ ∀ (op : Comparison) (a b : Number) (field : String) (e : Entry),
      e.value.member? field = some (.number a) →
        ((compare field op (.ofNumber b)).test e = true ↔ op.Relates a.value b.value) := by
  intro h
  let a : Number := .int 9223372036854775809 (by decide)
  let b : Number := .int 9223372036854775808 (by decide)
  have hequal : (compare "n" .eq (.ofNumber b)).test (.root (.object [("n", .number a)])) =
      true := by decide +kernel
  have hvalues : ((9223372036854775809 : ℤ) : ℚ) = ((9223372036854775808 : ℤ) : ℚ) :=
    (h .eq a b "n" (.root (.object [("n", .number a)])) rfl).mp hequal
  norm_num at hvalues

end Predicate

end PathQuery
