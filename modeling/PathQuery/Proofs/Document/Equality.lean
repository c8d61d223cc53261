import PathQuery.Json.Document

/-! # Equality up to the order of members

`same` compares a member with the first one of its key on the other side.  So a value is the
same as itself provided that it has no key twice, which every document satisfies
(`Document.same_self`). -/
namespace PathQuery

theorem Number.same_self (n : Number) : n.same n = true := by
  cases n <;> simp [same]

namespace Json

mutual

theorem same_self : ∀ (v : Json), v.Distinct → v.same v = true
  | null, _ => rfl
  | bool b, _ => by simp [same]
  | number n, _ => n.same_self
  | string s, _ => by simp [same]
  | array xs, h => sameItems_self xs h
  | object ms, h => by
    rw [same, beq_self_eq_true, Bool.true_and]
    exact sameMembers_self ms h.2 fun k v hm => Members.lookup_of_mem h.1 hm

theorem sameItems_self : ∀ (xs : List Json), DistinctItems xs → sameItems xs xs = true
  | [], _ => rfl
  | x :: xs, h => by rw [sameItems, same_self x h.1, sameItems_self xs h.2, Bool.and_self]

/-- Some members of an object are found among all of them. -/
theorem sameMembers_self : ∀ (ms : List (String × Json)) {ns : List (String × Json)},
    DistinctMembers ms → (∀ k v, (k, v) ∈ ms → ns.lookup k = some v) → sameMembers ms ns = true
  | [], _, _, _ => rfl
  | (k, v) :: ms, ns, hdistinct, hlook => by
    have hhead : ns.lookup k = some v := hlook k v List.mem_cons_self
    have htail : sameMembers ms ns = true :=
      sameMembers_self ms hdistinct.2 fun k v hm => hlook k v (List.mem_cons_of_mem _ hm)
    simp only [sameMembers, hhead, same_self v hdistinct.1, htail, Bool.and_self]

end

end Json

/-- A document is the same as itself. -/
theorem Document.same_self (d : Document) : d.same d = true := d.value.same_self d.distinct

end PathQuery
