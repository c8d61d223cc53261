import PathQuery.Predicate.Basic
import PathQuery.Proofs.Document.Reordering

/-! # Predicates on values that are alike

Predicates that are the same give the same answer on values that are alike
(`Predicate.holds_eq_of_same`), though neither has to be identical: members may come in
another order, and a zero may have another sign.  Of the leaves, presence looks only for a
key, and the other two look at the scalars of a field, which are alike one by one; and scalars
that are alike compare alike. -/
namespace PathQuery

/-! ### Comparing numbers -/

namespace Number

theorem signed64?_eq_of_same {a b : Number} (h : a.same b = true) :
    a.signed64? = b.signed64? := by
  cases a with
  | int n _ =>
    cases b with
    | int m _ =>
      rw [same, beq_iff_eq] at h
      simp only [signed64?, h]
    | double => cases h
  | double x =>
    cases b with
    | int => cases h
    | double y => rfl

theorem roundedUnits_eq_of_same {a b : Number} (h : a.same b = true) :
    a.roundedUnits = b.roundedUnits := by
  cases a with
  | int n _ =>
    cases b with
    | int m _ =>
      rw [same, beq_iff_eq] at h
      simp only [roundedUnits, h]
    | double => cases h
  | double x =>
    cases b with
    | int => cases h
    | double y => exact beq_iff_eq.mp h

theorem order_eq_of_same {a a' b b' : Number} (ha : a.same a' = true) (hb : b.same b' = true) :
    a.order b = a'.order b' := by
  simp only [order, signed64?_eq_of_same ha, signed64?_eq_of_same hb,
    roundedUnits_eq_of_same ha, roundedUnits_eq_of_same hb]

end Number

/-! ### Comparing scalars -/

namespace Json

variable {v v' w w' : Json}

theorem Alike.exists_number {a : Number} (h : (number a).Alike w) :
    ∃ b, w = number b ∧ a.same b = true := by
  cases w with
  | number b => exact ⟨b, rfl, h.same⟩
  | _ => cases h.same

/-- Of the scalars only numbers can be alike and not identical. -/
theorem Alike.eq_of_scalar (h : v.Alike w) (hscalar : v.isScalar = true)
    (hnumber : v.kind ≠ .number) : v = w := by
  have hkind := h.kind_eq
  have hsame := h.same
  cases v with
  | null =>
    cases w with
    | null => rfl
    | _ => cases hkind
  | bool a =>
    cases w with
    | bool b => rw [beq_iff_eq.mp hsame]
    | _ => cases hkind
  | string a =>
    cases w with
    | string b => rw [beq_iff_eq.mp hsame]
    | _ => cases hkind
  | number => exact absurd rfl hnumber
  | _ => cases hscalar

theorem order?_eq_none_of_kind_ne (h : v.kind ≠ w.kind) : v.order? w = none := by
  cases v <;> cases w <;> first | rfl | exact absurd rfl h

theorem equal_eq_false_of_kind_ne (h : v.kind ≠ w.kind) : v.equal w = false := by
  cases v <;> cases w <;> first | rfl | exact absurd rfl h

end Json

namespace Comparison

/-- Values of different kinds differ, and do not compare otherwise. -/
theorem holds_of_kind_ne {v w : Json} (h : v.kind ≠ w.kind) (op : Comparison) :
    op.holds v w = decide (op = ne) := by
  have horder := Json.order?_eq_none_of_kind_ne h
  have hequal := Json.equal_eq_false_of_kind_ne h
  cases op <;> simp [holds, horder, hequal]

theorem holds_number_eq_of_same {a a' b b' : Number} (ha : a.same a' = true)
    (hb : b.same b' = true) (op : Comparison) :
    op.holds (.number a) (.number b) = op.holds (.number a') (.number b') := by
  have horder := Number.order_eq_of_same ha hb
  cases op <;> simp only [holds, Json.order?, Json.equal, horder]

/-- Scalars that are alike compare alike, with expected values that are alike. -/
theorem holds_eq_of_alike {v v' w w' : Json} (hv : v.Alike v') (hscalar : v.isScalar = true)
    (hw : w.Alike w') (op : Comparison) : op.holds v w = op.holds v' w' := by
  by_cases hkind : v.kind = w.kind
  · by_cases hnumber : v.kind = .number
    · cases v with
      | number a =>
        cases w with
        | number b =>
          obtain ⟨a', rfl, ha⟩ := hv.exists_number
          obtain ⟨b', rfl, hb⟩ := hw.exists_number
          exact holds_number_eq_of_same ha hb op
        | _ => cases hkind
      | _ => cases hnumber
    · have hscalar' : w.isScalar = true := by rwa [Json.isScalar, ← hkind]
      rw [hv.eq_of_scalar hscalar hnumber, hw.eq_of_scalar hscalar' (hkind ▸ hnumber)]
  · have hkind' : v'.kind ≠ w'.kind := by rwa [← hv.kind_eq, ← hw.kind_eq]
    rw [holds_of_kind_ne hkind, holds_of_kind_ne hkind']

end Comparison

/-! ### The scalars of a field -/

namespace Json

theorem Alike.isScalar_eq {v w : Json} (h : v.Alike w) : v.isScalar = w.isScalar := by
  rw [isScalar, isScalar, h.kind_eq]

theorem forall₂_filter_isScalar {xs ys : List Json} (h : List.Forall₂ Alike xs ys) :
    List.Forall₂ Alike (xs.filter isScalar) (ys.filter isScalar) := by
  refine List.rel_filter (fun x y hxy => ?_) h
  exact Bool.eq_iff_iff.mp hxy.isScalar_eq

theorem fieldScalars_of_not_array {v w : Json} {field : String} (h : v.member? field = some w)
    (hw : w.kind ≠ .array) : v.fieldScalars field = [w].filter isScalar := by
  rw [Json.fieldScalars, h]
  cases w with
  | array => exact absurd rfl hw
  | _ => rfl

theorem Alike.fieldScalars {v w : Json} (h : v.Alike w) (field : String) :
    List.Forall₂ Alike (v.fieldScalars field) (w.fieldScalars field) := by
  have hmember := h.member? field
  cases hv : v.member? field with
  | none =>
    cases hw : w.member? field with
    | none => simp [Json.fieldScalars, hv, hw]
    | some y => simp [hv, hw] at hmember
  | some x =>
    cases hw : w.member? field with
    | none => simp [hv, hw] at hmember
    | some y =>
      have hxy : x.Alike y := by simpa [hv, hw] using hmember
      by_cases hx : x.kind = .array
      · cases x with
        | array xs =>
          obtain ⟨ys, rfl, hrel⟩ := hxy.exists_items
          rw [Json.fieldScalars, Json.fieldScalars, hv, hw]
          exact forall₂_filter_isScalar hrel
        | _ => cases hx
      · rw [fieldScalars_of_not_array hv hx, fieldScalars_of_not_array hw (hxy.kind_eq ▸ hx)]
        exact forall₂_filter_isScalar (.cons hxy .nil)

theorem isScalar_of_mem_fieldScalars {v w : Json} {field : String}
    (h : w ∈ v.fieldScalars field) : w.isScalar = true := by
  unfold Json.fieldScalars at h
  split at h
  · exact (List.mem_filter.mp h).2
  · exact (List.mem_filter.mp h).2
  · cases h

end Json

/-- What holds alike of items that are related holds of some item on either side or on
neither. -/
theorem any_eq_of_forall₂ {α β : Type} {R : α → β → Prop} {xs : List α} {ys : List β}
    (h : List.Forall₂ R xs ys) {p : α → Bool} {q : β → Bool}
    (hpq : ∀ x ∈ xs, ∀ y, R x y → p x = q y) : xs.any p = ys.any q := by
  induction h with
  | nil => rfl
  | cons hxy _ ih =>
    rw [List.any_cons, List.any_cons, hpq _ List.mem_cons_self _ hxy,
      ih fun x hx => hpq x (List.mem_cons_of_mem _ hx)]

namespace Predicate

/-- The same predicates give the same answer on values that are alike. -/
theorem holds_eq_of_same {p p' : Predicate} (h : p.same p' = true) {v w : Json}
    (hvw : v.Alike w) : p.holds v = p'.holds w := by
  induction p generalizing p' with
  | compare f o d =>
    cases p' with
    | compare g r e =>
      simp only [same, Bool.and_eq_true, beq_iff_eq] at h
      obtain ⟨⟨rfl, rfl⟩, hsame⟩ := h
      refine any_eq_of_forall₂ (hvw.fieldScalars f) fun x hx y hxy => ?_
      exact Comparison.holds_eq_of_alike hxy (Json.isScalar_of_mem_fieldScalars hx)
        ⟨d.distinct, e.distinct, hsame⟩ o
    | _ => cases h
  | like f p =>
    cases p' with
    | like g q =>
      simp only [same, Bool.and_eq_true, beq_iff_eq] at h
      obtain ⟨rfl, hsource⟩ := h
      obtain rfl := Pattern.eq_of_source_eq hsource
      refine any_eq_of_forall₂ (hvw.fieldScalars f) fun x hx y hxy => ?_
      by_cases hnumber : x.kind = .number
      · cases x with
        | number a =>
          obtain ⟨b, rfl, -⟩ := hxy.exists_number
          rfl
        | _ => cases hnumber
      · rw [hxy.eq_of_scalar (Json.isScalar_of_mem_fieldScalars hx) hnumber]
    | _ => cases h
  | has f =>
    cases p' with
    | has g =>
      obtain rfl := beq_iff_eq.mp h
      have hmember := hvw.member? f
      rw [holds, holds]
      cases hv : v.member? f <;> cases hw : w.member? f <;> simp_all
    | _ => cases h
  | and p q ihp ihq =>
    cases p' with
    | and r s =>
      rw [same, Bool.and_eq_true] at h
      rw [holds_and, holds_and, ihp h.1, ihq h.2]
    | _ => cases h
  | or p q ihp ihq =>
    cases p' with
    | or r s =>
      rw [same, Bool.and_eq_true] at h
      rw [holds_or, holds_or, ihp h.1, ihq h.2]
    | _ => cases h
  | not p ih =>
    cases p' with
    | not q => rw [holds_not, holds_not, ih h]
    | _ => cases h

end Predicate

end PathQuery
