import PathQuery.Proofs.Document.Equivalence
import PathQuery.Proofs.Predicate.Agreement
import PathQuery.Proofs.Query.PredicateText

/-! # Equality of predicates

Predicates are the same if they are built alike from the same leaves, where an expected value
may have its members in another order and a pattern is known by its source.  This is an
equivalence, because equality of documents is, and it is a congruence: entries whose values are
the same too are told apart by both predicates or by neither
(`Predicate.equivalence_same_congr`). -/
namespace PathQuery

namespace Predicate

variable {p q r : Predicate}

theorem same_symm (h : p.same q = true) : q.same p = true := by
  fun_induction same p q with
  | case1 f o v g r w =>
    simp only [Bool.and_eq_true, beq_iff_eq] at h
    obtain ⟨⟨rfl, rfl⟩, hsame⟩ := h
    simpa [same] using Document.same_symm hsame
  | case2 f p g q =>
    simp only [Bool.and_eq_true, beq_iff_eq] at h
    simp [same, h.1, h.2]
  | case3 f g =>
    rw [same, beq_iff_eq]
    exact (beq_iff_eq.mp h).symm
  | case4 p q r s ihp ihq =>
    rw [Bool.and_eq_true] at h
    rw [same, ihp h.1, ihq h.2, Bool.and_self]
  | case5 p q r s ihp ihq =>
    rw [Bool.and_eq_true] at h
    rw [same, ihp h.1, ihq h.2, Bool.and_self]
  | case6 p q ih => exact ih h
  | case7 => cases h

theorem same_trans (h : p.same q = true) (h' : q.same r = true) : p.same r = true := by
  fun_induction same p q generalizing r with
  | case1 f o v g op w =>
    cases r with
    | compare =>
      simp only [same, Bool.and_eq_true, beq_iff_eq] at h h' ⊢
      exact ⟨⟨h.1.1.trans h'.1.1, h.1.2.trans h'.1.2⟩, Document.same_trans h.2 h'.2⟩
    | _ => cases h'
  | case2 f p g q =>
    cases r with
    | like =>
      simp only [same, Bool.and_eq_true, beq_iff_eq] at h h' ⊢
      exact ⟨h.1.trans h'.1, h.2.trans h'.2⟩
    | _ => cases h'
  | case3 f g =>
    cases r with
    | has =>
      rw [same, beq_iff_eq] at h' ⊢
      exact (beq_iff_eq.mp h).trans h'
    | _ => cases h'
  | case4 p q s t ihp ihq =>
    cases r with
    | and =>
      rw [same, Bool.and_eq_true] at h' ⊢
      rw [Bool.and_eq_true] at h
      exact ⟨ihp h.1 h'.1, ihq h.2 h'.2⟩
    | _ => cases h'
  | case5 p q s t ihp ihq =>
    cases r with
    | or =>
      rw [same, Bool.and_eq_true] at h' ⊢
      rw [Bool.and_eq_true] at h
      exact ⟨ihp h.1 h'.1, ihq h.2 h'.2⟩
    | _ => cases h'
  | case6 p q ih =>
    cases r with
    | not => exact ih h h'
    | _ => cases h'
  | case7 => cases h

/-- To be the same is an equivalence of predicates, and predicates that are the same agree on
entries whose values are the same. -/
theorem equivalence_same_congr :
    Equivalence (fun p q : Predicate => p.same q = true) ∧
    ∀ p q : Predicate, p.same q = true → ∀ e f : Entry, e.value.Distinct → f.value.Distinct →
      e.value.same f.value = true → p.test e = q.test f :=
  ⟨⟨same_self, same_symm, same_trans⟩,
    fun _ _ h _ _ he hf hsame => holds_eq_of_same h ⟨he, hf, hsame⟩⟩

/-- Expected values and entries with their members in another order and a zero of another sign. -/
theorem equivalence_same_congr_reordered :
    let zero (negative : Bool) : Json := .number (.double (.zero negative))
    let d : Document := .ofJson (.object [("x", zero false), ("y", .null)])
    let d' : Document := .ofJson (.object [("y", .null), ("x", zero true)])
    let p : Predicate := .and (.compare "x" .ge (.ofJson (zero true))) (.compare "y" .ne d)
    let q : Predicate := .and (.compare "x" .ge (.ofJson (zero false))) (.compare "y" .ne d')
    p.same q = true ∧ d.value.Distinct ∧ d'.value.Distinct ∧ d.value.same d'.value = true ∧
      p.test (.root d.value) = q.test (.root d'.value) := by
  intro zero d d' p q
  have hpq : p.same q = true := by decide
  have hsame : d.value.same d'.value = true := by decide
  have hcongr := equivalence_same_congr.2 p q hpq
  exact ⟨hpq, d.distinct, d'.distinct, hsame,
    hcongr (.root d.value) (.root d'.value) d.distinct d'.distinct hsame⟩

end Predicate

end PathQuery
