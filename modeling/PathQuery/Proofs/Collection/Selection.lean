import Mathlib.Data.Fintype.Card
import Mathlib.Data.List.FinRange
import PathQuery.Collection.Basic
import PathQuery.Predicate.Basic

/-! # Selecting by predicates

A collection may hold an entry more than once, so what a predicate keeps of it is a set of
places, not of entries (`Collection.kept`).  Filtering reads the collection at the places that
are kept, in order (`Collection.filter_eq_pick`), and the connectives act on these places as
intersection, union and complement.  So every law of sets is one of filters, and numbers of
entries are numbers of places (`Collection.filter_boolean_algebra`). -/
namespace PathQuery

/-! ### The items at some places of a list -/

section Items

variable {α : Type}

/-- The items at some places, in order. -/
def itemsAt (xs : List α) (s : Finset (Fin xs.length)) : List α :=
  ((List.finRange xs.length).filter (· ∈ s)).map fun i => xs[i]

theorem filter_eq_itemsAt (xs : List α) (p : α → Bool) :
    xs.filter p = itemsAt xs (Finset.univ.filter fun i => p xs[i] = true) := by
  conv_lhs => rw [← List.map_getElem_finRange xs, List.filter_map]
  simp only [itemsAt, Finset.mem_filter_univ, Bool.decide_eq_true]
  rfl

theorem length_itemsAt (xs : List α) (s : Finset (Fin xs.length)) :
    (itemsAt xs s).length = s.card := by
  have hs : ((List.finRange xs.length).filter (· ∈ s)).toFinset = s := by
    ext i
    simp
  rw [itemsAt, List.length_map, ← List.toFinset_card_of_nodup ((List.nodup_finRange _).filter _),
    hs]

/-- Every item is at one of the places or at one of the others. -/
theorem itemsAt_append_compl (xs : List α) (s : Finset (Fin xs.length)) :
    (itemsAt xs s ++ itemsAt xs sᶜ).Perm xs := by
  have hperm := List.filter_append_perm (· ∈ s) (List.finRange xs.length)
  rw [itemsAt, itemsAt, ← List.map_append]
  conv_rhs => rw [← List.map_getElem_finRange xs]
  refine List.Perm.map _ ?_
  simpa only [Finset.mem_compl, decide_not] using hperm

end Items

namespace Collection

variable (c : Collection) (p q r : Predicate)

/-! ### The places that a predicate keeps -/

/-- The places of the entries that satisfy a predicate. -/
def kept : Finset (Fin c.entries.length) :=
  Finset.univ.filter fun i => p.test c.entries[i] = true

@[simp] theorem mem_kept {i : Fin c.entries.length} :
    i ∈ c.kept p ↔ p.test c.entries[i] = true := by
  simp [kept]

/-- The collection of the entries at some places. -/
def pick (s : Finset (Fin c.entries.length)) : Collection := ⟨c.name, itemsAt c.entries s⟩

/-- Filtering reads a collection at the places that are kept. -/
theorem filter_eq_pick : c.filter p.test = c.pick (c.kept p) :=
  congrArg (Collection.mk c.name) (filter_eq_itemsAt c.entries p.test)

@[simp] theorem kept_and : c.kept (p.and q) = c.kept p ∩ c.kept q := by
  ext i
  simp [Predicate.test]

@[simp] theorem kept_or : c.kept (p.or q) = c.kept p ∪ c.kept q := by
  ext i
  simp [Predicate.test]

@[simp] theorem kept_not : c.kept p.not = (c.kept p)ᶜ := by
  ext i
  simp [Predicate.test]

/-! ### Laws of filters -/

variable {p q} in
theorem filter_congr_kept (h : c.kept p = c.kept q) : c.filter p.test = c.filter q.test := by
  rw [filter_eq_pick, filter_eq_pick, h]

theorem length_filter : (c.filter p.test).entries.length = (c.kept p).card := by
  rw [filter_eq_pick]
  exact length_itemsAt c.entries (c.kept p)

theorem filter_and_eq : c.filter (p.and q).test = (c.filter p.test).filter q.test := by
  refine congrArg (Collection.mk c.name) (Eq.trans ?_ List.filter_filter.symm)
  refine List.filter_congr ?_
  intro e _
  exact Bool.and_comm (p.test e) (q.test e)

theorem filter_append_filter_not :
    ((c.filter p.test).entries ++ (c.filter p.not.test).entries).Perm c.entries := by
  rw [filter_eq_pick, filter_eq_pick, kept_not]
  exact itemsAt_append_compl c.entries (c.kept p)

theorem length_filter_or_add_length_filter_and :
    (c.filter (p.or q).test).entries.length + (c.filter (p.and q).test).entries.length =
      (c.filter p.test).entries.length + (c.filter q.test).entries.length := by
  simp only [length_filter, kept_or, kept_and]
  exact Finset.card_union_add_card_inter _ _

/-- Filtering by a conjunction is filtering by either part and then by the other; by a
disjunction it keeps each place that either part keeps, and by a negation each of the others.
The connectives obey the laws of a Boolean algebra, what two predicates keep is counted as for
sets, and the name of the collection stays. -/
theorem filter_boolean_algebra :
    (c.filter (p.and q).test = (c.filter p.test).filter q.test ∧
      c.filter (p.and q).test = (c.filter q.test).filter p.test) ∧
    (c.filter p.test = c.pick (c.kept p) ∧ c.filter q.test = c.pick (c.kept q) ∧
      c.filter (p.or q).test = c.pick (c.kept p ∪ c.kept q)) ∧
    ((c.filter ((p.and q).and r).test = c.filter (p.and (q.and r)).test ∧
        c.filter ((p.or q).or r).test = c.filter (p.or (q.or r)).test) ∧
      (c.filter (p.and q).test = c.filter (q.and p).test ∧
        c.filter (p.or q).test = c.filter (q.or p).test) ∧
      (c.filter (p.and p).test = c.filter p.test ∧ c.filter (p.or p).test = c.filter p.test) ∧
      (c.filter (p.and (q.or r)).test = c.filter ((p.and q).or (p.and r)).test ∧
        c.filter (p.or (q.and r)).test = c.filter ((p.or q).and (p.or r)).test) ∧
      c.filter (p.and q).not.test = c.filter (p.not.or q.not).test ∧
        c.filter (p.or q).not.test = c.filter (p.not.and q.not).test) ∧
    (c.filter p.not.test = c.pick (c.kept p)ᶜ ∧
      ((c.filter p.test).entries ++ (c.filter p.not.test).entries).Perm c.entries) ∧
    (c.filter (p.or q).test).entries.length + (c.filter (p.and q).test).entries.length =
      (c.filter p.test).entries.length + (c.filter q.test).entries.length ∧
    (c.filter p.test).name = c.name := by
  have hcomm : c.filter (p.and q).test = c.filter (q.and p).test :=
    c.filter_congr_kept (by simp only [kept_and, Finset.inter_comm])
  refine ⟨⟨c.filter_and_eq p q, hcomm.trans (c.filter_and_eq q p)⟩,
    ⟨c.filter_eq_pick p, c.filter_eq_pick q, by rw [filter_eq_pick, kept_or]⟩,
    ⟨⟨?_, ?_⟩, ⟨hcomm, ?_⟩, ⟨?_, ?_⟩, ⟨?_, ?_⟩, ?_, ?_⟩,
    ⟨by rw [filter_eq_pick, kept_not], c.filter_append_filter_not p⟩,
    c.length_filter_or_add_length_filter_and p q, rfl⟩
  -- each law is the one of the sets that are kept
  all_goals apply c.filter_congr_kept
  all_goals simp only [kept_and, kept_or, kept_not]
  · exact Finset.inter_assoc _ _ _
  · exact Finset.union_assoc _ _ _
  · exact Finset.union_comm _ _
  · exact Finset.inter_self _
  · exact Finset.union_idempotent _
  · exact Finset.inter_union_distrib_left _ _ _
  · exact Finset.union_inter_distrib_left _ _ _
  · exact Finset.compl_inter _ _
  · exact Finset.compl_union _ _

end Collection

end PathQuery
