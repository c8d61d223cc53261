import PathQuery.Proofs.Query.Searching

/-! # Filtering and descending

A leaf of a predicate looks at a field by a rule of its own, and descending flattens arrays by
another.  Below a value that is not an array the two agree: the scalars that a leaf looks at are
those among what descending finds, in the same order (`Json.fieldScalars_eq`), and where a field
is missing descending finds nothing.  So a filter tests what the next step would find
(`Collection.leaf_test_iff_getKey`).

They part at arrays.  Descending goes on into the elements of an array, but a leaf finds no field
in it and is false. -/
namespace PathQuery

namespace Json

variable {v : Json}

/-! ### Fields -/

theorem member?_eq_none_of_array (h : v.kind = .array) (field : String) :
    v.member? field = none := by
  cases v with
  | array => rfl
  | _ => cases h

theorem descend_of_member? {w : Json} {field : String} (h : v.member? field = some w) :
    v.descend field = Entry.ofMember field w := by
  cases v with
  | object members =>
    rw [member?] at h
    rw [descend, h]
  | _ => cases h

theorem descend_of_no_member (h : v.kind ≠ .array) {field : String}
    (hfield : v.member? field = none) : v.descend field = [] := by
  cases v with
  | object members =>
    rw [member?] at hfield
    rw [descend, hfield]
  | array => exact absurd rfl h
  | _ => rfl

/-- Below a value that is not an array, a leaf looks at the scalars that descending finds. -/
theorem fieldScalars_eq (h : v.kind ≠ .array) (field : String) :
    v.fieldScalars field = ((v.descend field).map Entry.value).filter isScalar := by
  cases hfield : v.member? field with
  | none => rw [descend_of_no_member h hfield, fieldScalars, hfield, List.map_nil, List.filter_nil]
  | some w =>
    rw [descend_of_member? hfield]
    -- both rules open an array that is the member, and none that is an item of it
    by_cases hw : w.kind = .array
    · cases w with
      | array items => rw [Entry.ofMember, Entry.map_value_elements, fieldScalars, hfield]
      | _ => cases hw
    · rw [fieldScalars_of_not_array hfield hw, Entry.ofMember_of_ne field hw, List.map_singleton]

theorem any_fieldScalars_iff (h : v.kind ≠ .array) (field : String) (test : Json → Bool) :
    (v.fieldScalars field).any test = true ↔
      ∃ f ∈ v.descend field, f.isScalar = true ∧ test f.value = true := by
  rw [fieldScalars_eq h, List.any_filter, List.any_map, List.any_eq_true]
  simp only [Function.comp_apply, Bool.and_eq_true]
  rfl

theorem fieldScalars_of_array (h : v.kind = .array) (field : String) :
    v.fieldScalars field = [] := by
  rw [fieldScalars, member?_eq_none_of_array h]

end Json

namespace Predicate

variable {e : Entry} {field : String}

/-! ### Leaves -/

theorem test_compare_iff (he : e.kind ≠ .array) (op : Comparison) (expected : Document) :
    (compare field op expected).test e = true ↔
      ∃ f ∈ e.value.descend field, f.isScalar = true ∧ op.holds f.value expected.value = true :=
  Json.any_fieldScalars_iff he field fun w => op.holds w expected.value

theorem test_like_iff (he : e.kind ≠ .array) (pattern : Pattern) :
    (like field pattern).test e = true ↔
      ∃ f ∈ e.value.descend field, ∃ s, f.value = .string s ∧ pattern.matchesText s = true := by
  refine (Json.any_fieldScalars_iff he field _).trans (exists_congr ?_)
  rintro ⟨name, index, w⟩
  refine and_congr_right ?_
  intro _
  cases w <;> simp [Entry.isScalar, Json.isScalar, Json.kind, Kind.isScalar]

theorem descend_eq_nil_of_not_has (he : e.kind ≠ .array) (h : (has field).test e = false) :
    e.value.descend field = [] := by
  have hfield : e.value.member? field = none :=
    Option.not_isSome_iff_eq_none.mp (Bool.eq_false_iff.mp h)
  exact Json.descend_of_no_member he hfield

end Predicate

namespace Collection

/-- On an entry that is not an array a comparison or a pattern holds if it does of some scalar
that descending by the field finds; to ask for a field first does not change what descending by
it finds.  On an array every leaf is false. -/
theorem leaf_test_iff_getKey (field : String) :
    (∀ (name : String) (e : Entry), e.kind ≠ .array →
      (∀ (op : Comparison) (expected : Document),
        (Predicate.compare field op expected).test e = true ↔
          ∃ f ∈ (getKey ⟨name, [e]⟩ field).entries,
            f.isScalar = true ∧ op.holds f.value expected.value = true) ∧
      ∀ pattern : Pattern,
        (Predicate.like field pattern).test e = true ↔
          ∃ f ∈ (getKey ⟨name, [e]⟩ field).entries,
            ∃ s, f.value = .string s ∧ pattern.matchesText s = true) ∧
    (∀ c : Collection, (∀ e ∈ c.entries, e.kind ≠ .array) →
      ((c.filter (Predicate.has field).test).getKey field).entries = (c.getKey field).entries) ∧
    ∀ e : Entry, e.kind = .array →
      (∀ (op : Comparison) (expected : Document),
        (Predicate.compare field op expected).test e = false) ∧
      (∀ pattern : Pattern, (Predicate.like field pattern).test e = false) ∧
      (Predicate.has field).test e = false := by
  refine ⟨?_, ?_, ?_⟩
  · intro name e he
    rw [entries_getKey_singleton]
    exact ⟨Predicate.test_compare_iff he, Predicate.test_like_iff he⟩
  · intro c hc
    exact flatMap_filter_eq fun e he => Predicate.descend_eq_nil_of_not_has (hc e he)
  · intro e he
    have hscalars : e.value.fieldScalars field = [] := Json.fieldScalars_of_array he field
    have hmember : e.value.member? field = none := Json.member?_eq_none_of_array he field
    simp [Predicate.test, Predicate.holds, hscalars, hmember]

/-- An array of items of every sort under the field: the scalars among them count, and what is
inside the others does not. -/
theorem leaf_test_iff_getKey_mixed :
    let items : Json := .array [.array [.ofInt 1], .object [("a", .ofInt 1)], .string "x", .ofInt 2]
    let e : Entry := .root (.object [("a", items)])
    let one : Document := ⟨.ofInt 1, trivial⟩
    let c : Collection := ⟨"pair", [e, .root (.object [("b", .null)])]⟩
    (e.kind ≠ .array ∧
      (∃ f ∈ (getKey ⟨"whole", [e]⟩ "a").entries,
        f.isScalar = true ∧ Comparison.gt.holds f.value one.value = true) ∧
      ¬ ∃ f ∈ (getKey ⟨"whole", [e]⟩ "a").entries,
        f.isScalar = true ∧ Comparison.eq.holds f.value one.value = true) ∧
    ((∀ d ∈ c.entries, d.kind ≠ .array) ∧
      ((c.filter (Predicate.has "a").test).getKey "a").entries = (c.getKey "a").entries) ∧
    (Entry.root items).kind = .array ∧
      (Predicate.compare "a" .eq one).test (.root items) = false := by
  intro items e one c
  have he : e.kind ≠ .array := by decide
  have hc : ∀ d ∈ c.entries, d.kind ≠ .array := by
    intro d hd
    rcases List.mem_pair.mp hd with rfl | rfl <;> decide
  have hcompare := ((leaf_test_iff_getKey "a").1 "whole" e he).1
  refine ⟨⟨he, (hcompare .gt one).mp (by decide), ?_⟩, ?_, rfl, ?_⟩
  · rw [← hcompare .eq one]
    decide
  · exact ⟨hc, (leaf_test_iff_getKey "a").2.1 c hc⟩
  · exact ((leaf_test_iff_getKey "a").2.2 (.root items) rfl).1 .eq one

end Collection

end PathQuery
