import PathQuery.Proofs.Number.Value
import PathQuery.Proofs.Predicate.Agreement

/-! # The order of scalars

Two numbers, two strings or two booleans always compare as less, equal or greater, and every
comparison admits some of these three outcomes (`Comparison.admits`).  So the comparisons fit
together, whichever way an outcome was found (`Comparison.holds_coherent`).

Being less is transitive, although numbers are compared in two ways: as they are if both fit the
signed 64-bit range, and after rounding otherwise.  Of three numbers that get greater the first
and the last are kept apart if the neighbours are (`Number.Separated.trans`).  Being equal is not
transitive: `9007199254740992.0` equals both `9007199254740992` and `9007199254740993`. -/
namespace PathQuery

namespace Number

variable {a b c : Number}

/-! ### Numbers -/

theorem order_swap (a b : Number) : (a.order b).swap = b.order a := by
  unfold order
  cases a.signed64? <;> cases b.signed64? <;> exact Int.compare_swap ..

theorem order_eq_lt_iff : a.order b = .lt ↔ a.Separated b ∧ a.value < b.value := by
  by_cases h : a.Separated b
  · rw [order_of_separated h, cmp_eq_lt_iff]
    exact (and_iff_right h).symm
  · simp [order_of_not_separated h, h]

/-- Rounding keeps the order of values. -/
theorem roundedUnits_le_of_value_le (h : a.value ≤ b.value) : a.roundedUnits ≤ b.roundedUnits := by
  refine roundedUnits_mono (not_lt.mp fun hlt => ?_)
  rw [← cmp_eq_gt_iff, cmp_exactUnits, cmp_eq_gt_iff] at hlt
  exact not_lt.mpr h hlt

/-- Were the first and the last rounded to one double, so would be the number between them; then
each pair is kept apart as integers of the signed 64-bit range, and so are these two. -/
theorem Separated.trans (hab : a.Separated b) (hbc : b.Separated c) (hlt : a.value < b.value)
    (hlt' : b.value < c.value) : a.Separated c := by
  by_cases hround : a.roundedUnits = c.roundedUnits
  · have hle := roundedUnits_le_of_value_le hlt.le
    have hle' := roundedUnits_le_of_value_le hlt'.le
    have heq : a.roundedUnits = b.roundedUnits := by omega
    have heq' : b.roundedUnits = c.roundedUnits := by omega
    have hsigned := hab.resolve_right (not_not.mpr heq)
    have hsigned' := hbc.resolve_right (not_not.mpr heq')
    exact Or.inl ⟨hsigned.1, hsigned'.2⟩
  · exact Or.inr hround

theorem order_lt_trans (hab : a.order b = .lt) (hbc : b.order c = .lt) : a.order c = .lt := by
  obtain ⟨hsep, hlt⟩ := order_eq_lt_iff.mp hab
  obtain ⟨hsep', hlt'⟩ := order_eq_lt_iff.mp hbc
  exact order_eq_lt_iff.mpr ⟨hsep.trans hsep' hlt hlt', hlt.trans hlt'⟩

example :
    let x : Number := .double ⟨false, 4503599627370496, 1075, by decide, by decide, by decide⟩
    let n : Number := .int 9007199254740992 (by decide)
    let m : Number := .int 9007199254740993 (by decide)
    m.order x = .eq ∧ x.order n = .eq ∧ n.order m = .lt := by decide +kernel

end Number

namespace Json

/-! ### Scalars -/

/-- Two scalars of one kind that has an order; null has none. -/
def Comparable (v w : Json) : Prop :=
  v.kind = w.kind ∧ (v.kind = .number ∨ v.kind = .string ∨ v.kind = .boolean)

variable {u v w : Json}

theorem Comparable.cases (h : v.Comparable w) :
    (∃ a b, v = number a ∧ w = number b) ∨ (∃ s t, v = string s ∧ w = string t) ∨
      ∃ a b, v = bool a ∧ w = bool b := by
  obtain ⟨hkind, hordered⟩ := h
  cases v <;> cases w <;> simp_all [kind]

/-- Comparable scalars have an outcome, and the test for equality agrees with it. -/
theorem Comparable.exists_outcome (h : v.Comparable w) :
    ∃ o, v.order? w = some o ∧ v.equal w = o.isEq := by
  rcases h.cases with ⟨a, b, rfl, rfl⟩ | ⟨s, t, rfl, rfl⟩ | ⟨a, b, rfl, rfl⟩
  · refine ⟨a.order b, rfl, ?_⟩
    change (a.order b == .eq) = _
    rw [Bool.eq_iff_iff, beq_iff_eq, Ordering.isEq_iff_eq_eq]
  · refine ⟨Ord.compare s t, rfl, ?_⟩
    change (s == t) = _
    rw [Bool.eq_iff_iff, beq_iff_eq, Ordering.isEq_iff_eq_eq, Std.compare_eq_iff_eq]
  · refine ⟨Ord.compare a b, rfl, ?_⟩
    change (a == b) = _
    rw [Bool.eq_iff_iff, beq_iff_eq, Ordering.isEq_iff_eq_eq, Std.compare_eq_iff_eq]

theorem Comparable.order?_swap (h : v.Comparable w) :
    w.order? v = (v.order? w).map Ordering.swap := by
  rcases h.cases with ⟨a, b, rfl, rfl⟩ | ⟨s, t, rfl, rfl⟩ | ⟨a, b, rfl, rfl⟩
  · exact congrArg some (a.order_swap b).symm
  · exact congrArg some Std.OrientedCmp.eq_swap
  · exact congrArg some Std.OrientedCmp.eq_swap

theorem order?_lt_trans (huv : u.order? v = some .lt) (hvw : v.order? w = some .lt) :
    u.order? w = some .lt := by
  cases v with
  | number b =>
    cases u with
    | number a =>
      cases w with
      | number c =>
        simp only [order?, Option.some.injEq] at huv hvw ⊢
        exact Number.order_lt_trans huv hvw
      | _ => cases hvw
    | _ => cases huv
  | string t =>
    cases u with
    | string s =>
      cases w with
      | string r =>
        simp only [order?, Option.some.injEq] at huv hvw ⊢
        exact Std.TransCmp.lt_trans huv hvw
      | _ => cases hvw
    | _ => cases huv
  | bool b =>
    cases u with
    | bool a =>
      cases w with
      | bool c =>
        simp only [order?, Option.some.injEq] at huv hvw ⊢
        exact Std.TransCmp.lt_trans huv hvw
      | _ => cases hvw
    | _ => cases huv
  | _ => cases u <;> cases huv

end Json

namespace Comparison

/-- Whether a comparison admits an outcome. -/
def admits (o : Ordering) : Comparison → Bool
  | eq => o.isEq
  | ne => o.isNe
  | gt => o.isGT
  | lt => o.isLT
  | ge => o.isGE
  | le => o.isLE

theorem holds_eq_admits {v w : Json} {o : Ordering} (horder : v.order? w = some o)
    (hequal : v.equal w = o.isEq) (op : Comparison) : op.holds v w = op.admits o := by
  cases op <;> cases o <;> simp [holds, admits, horder, hequal]

theorem holds_lt_iff {v w : Json} : lt.holds v w = true ↔ v.order? w = some .lt := by
  simp [holds]

theorem holds_lt_trans {u v w : Json} (huv : lt.holds u v = true) (hvw : lt.holds v w = true) :
    lt.holds u w = true := by
  rw [holds_lt_iff] at huv hvw ⊢
  exact Json.order?_lt_trans huv hvw

/-- Of being less, equal and greater an outcome is exactly one. -/
theorem existsUnique_admits (o : Ordering) :
    ∃! op, op ∈ [lt, eq, gt] ∧ admits o op = true := by
  simp only [List.mem_cons, List.not_mem_nil, or_false]
  refine ⟨match o with | .lt => lt | .eq => eq | .gt => gt, ?_, ?_⟩
  · cases o <;> decide
  · rintro op ⟨rfl | rfl | rfl, h⟩ <;> cases o <;> first | rfl | cases h

/-- Of two numbers, two strings or two booleans exactly one of the comparisons for less, equal
and greater holds; the other three go by these, the opposite ones by the scalars turned round,
and being less is transitive.  Values of different kinds differ, and compare in no other way. -/
theorem holds_coherent {a b : Json} :
    (a.Comparable b →
      (∃! op, op ∈ [lt, eq, gt] ∧ op.holds a b = true) ∧
      (ge.holds a b = true ↔ gt.holds a b = true ∨ eq.holds a b = true) ∧
      (le.holds a b = true ↔ lt.holds a b = true ∨ eq.holds a b = true) ∧
      (ne.holds a b = true ↔ eq.holds a b = false) ∧
      (lt.holds a b = true ↔ gt.holds b a = true) ∧
      ∀ c, lt.holds a b = true → lt.holds b c = true → lt.holds a c = true) ∧
    (a.kind ≠ b.kind → ne.holds a b = true ∧ ∀ op, op ≠ ne → op.holds a b = false) := by
  constructor
  · intro h
    obtain ⟨o, horder, hequal⟩ := h.exists_outcome
    have hholds := holds_eq_admits horder hequal
    have hturned : gt.holds b a = lt.admits o := by
      rw [holds, h.order?_swap, horder]
      cases o <;> rfl
    refine ⟨?_, ?_, ?_, ?_, ?_, fun _ => holds_lt_trans⟩
    · simpa only [hholds] using existsUnique_admits o
    · rw [hholds, hholds, hholds]
      cases o <;> decide
    · rw [hholds, hholds, hholds]
      cases o <;> decide
    · rw [hholds, hholds]
      cases o <;> decide
    · rw [hholds, hturned]
  · intro h
    simp only [holds_of_kind_ne h]
    exact ⟨rfl, fun op hop => decide_eq_false hop⟩

/-- A signed integer that no double has as its value, a double, and an integer beyond the signed
range. -/
theorem holds_coherent_mixed :
    let a : Json := .ofInt 9007199254740993
    let b : Json := .number (.double ⟨false, 4503599627370498, 1075, by decide, by decide, by decide⟩)
    let c : Json := .ofInt 18446744073709551615
    (a.Comparable b ∧ (∃! op, op ∈ [lt, eq, gt] ∧ op.holds a b = true) ∧
      (lt.holds a b = true ∧ gt.holds b a = true) ∧
      lt.holds b c = true ∧ lt.holds a c = true) ∧
    a.kind ≠ Json.null.kind ∧ ne.holds a .null = true ∧ ge.holds a .null = false := by
  intro a b c
  have hab : a.Comparable b := ⟨rfl, Or.inl rfl⟩
  have hkind : a.kind ≠ Json.null.kind := by decide
  have hlt : lt.holds a b = true := by decide +kernel
  have hlt' : lt.holds b c = true := by decide +kernel
  obtain ⟨hone, -, -, -, hturned, htrans⟩ := holds_coherent.1 hab
  obtain ⟨hne, hother⟩ := holds_coherent.2 hkind
  exact ⟨⟨hab, hone, ⟨hlt, hturned.mp hlt⟩, hlt', htrans c hlt hlt'⟩, hkind, hne,
    hother ge (by decide)⟩

end Comparison

end PathQuery
