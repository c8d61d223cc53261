import PathQuery.Proofs.Document.Equality
import PathQuery.Proofs.Query.CanonicalText

/-! # Which predicates are read back

A predicate in brackets is a query of one step.  The canonical text of a predicate is read
back so exactly if every value that it compares with is the value of a literal
(`read_brackets_iff`): a scalar, and of the whole numbers one in the signed 64-bit range.

That others are not read back needs no look at their text.  Whatever is read compares with
values of literals only, and a value that is the same as one of those is one itself. -/
namespace PathQuery

theorem Number.isLiteral_of_same {a b : Number} (h : a.same b = true)
    (ha : Word.IsLiteral (.number a)) : Word.IsLiteral (.number b) := by
  fun_cases same a b with
  | case1 n _ m _ =>
    obtain rfl : n = m := by simpa [same] using h
    exact ha
  | case2 => trivial
  | case3 => simp_all [same]

theorem Json.isLiteral_of_same {v w : Json} (h : v.same w = true) (hv : Word.IsLiteral v) :
    Word.IsLiteral w := by
  cases v with
  | array | object => exact hv.elim
  | number a =>
    cases w with
    | number b => exact Number.isLiteral_of_same h hv
    | _ => cases h
  -- the others are the same as values of their own kind only
  | null | bool | string => cases w <;> trivial

namespace Predicate

theorem same_self (p : Predicate) : p.same p = true := by
  induction p with
  | compare field op expected => simp [same, expected.same_self]
  | like => simp [same]
  | has => simp [same]
  | and p q ihp ihq => rw [same, ihp, ihq, Bool.and_self]
  | or p q ihp ihq => rw [same, ihp, ihq, Bool.and_self]
  | not p ih => rw [same, ih]

theorem writable_of_same {p q : Predicate} (h : p.same q = true) (hp : p.Writable) :
    q.Writable := by
  fun_induction same p q with
  | case1 f o v g r w =>
    rw [Bool.and_eq_true] at h
    exact Json.isLiteral_of_same h.2 hp
  | case2 => trivial
  | case3 => trivial
  | case4 p q r s ihp ihq =>
    rw [Bool.and_eq_true] at h
    exact ⟨ihp h.1 hp.1, ihq h.2 hp.2⟩
  | case5 p q r s ihp ihq =>
    rw [Bool.and_eq_true] at h
    exact ⟨ihp h.1 hp.1, ihq h.2 hp.2⟩
  | case6 p q ih => exact ih h hp
  | case7 => cases h

end Predicate

namespace Query

theorem text_filter (p : Predicate) : text ⟨[.filter p]⟩ = "[" ++ p.text ++ "]" := by
  apply String.toList_inj.mp
  simp [text, chars, stepChars, Predicate.text]

/-- The canonical text of a predicate, in brackets, is read as a test for the same predicate
exactly if every value that the predicate compares with is the value of a literal. -/
theorem read_brackets_iff (p : Predicate) :
    (∃ q, read ("[" ++ p.text ++ "]") = .ok ⟨[.filter q]⟩ ∧ q.same p = true) ↔ p.Writable := by
  constructor
  · rintro ⟨q, hread, hsame⟩
    have hwritable := writable_of_accepts (readTrimmed_eq_ok_iff.mp hread)
    exact Predicate.writable_of_same hsame (hwritable (.filter q) (List.mem_singleton.mpr rfl))
  · intro h
    have hwritable : Writable ⟨[.filter p]⟩ := by
      intro s hs
      rw [List.mem_singleton.mp hs]
      exact h
    exact ⟨p, text_filter p ▸ read_text_of_writable hwritable, p.same_self⟩

end Query

end PathQuery
