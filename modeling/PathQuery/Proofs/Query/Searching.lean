import PathQuery.Proofs.Query.KeyOrder

/-! # What searching finds

To search for a key is to descend by it from every object inside, each taken once
(`Collection.entries_search_perm`).  Nothing is lost and nothing comes twice; only the order is
another, because `search` puts what is inside a value after the value and not level by level.

The objects are among the nodes that going to children leads to (`Entry.nodes`).  Searching is
first brought down by one level: it finds what an object holds itself, and what is found from
each of the values right inside (`Json.perm_search`).  This needs that no object has a key
twice, since descending looks up the first member of a key only. -/
namespace PathQuery

/-- Items that lead to nothing may be left out before. -/
theorem flatMap_filter_eq {α β : Type} {xs : List α} {p : α → Bool} {f : α → List β}
    (h : ∀ x ∈ xs, p x = false → f x = []) : (xs.filter p).flatMap f = xs.flatMap f := by
  induction xs with
  | nil => rfl
  | cons x xs ih =>
    have hrest := ih fun y hy => h y (List.mem_cons_of_mem _ hy)
    by_cases hp : p x = true
    · rw [List.filter_cons_of_pos hp, List.flatMap_cons, List.flatMap_cons, hrest]
    · have hnone : f x = [] := h x List.mem_cons_self (Bool.eq_false_iff.mpr hp)
      rw [List.filter_cons_of_neg hp, List.flatMap_cons, hnone, List.nil_append, hrest]

namespace Json

/-! ### One level -/

/-- What the value itself holds under `key`; an array holds nothing under a key. -/
def held (key : String) (v : Json) : List Entry :=
  if v.kind = .object then v.descend key else []

theorem searchItems_eq (key : String) (items : List Json) :
    searchItems key items = items.flatMap (search key) := by
  induction items with
  | nil => rfl
  | cons v vs ih => rw [searchItems, ih, List.flatMap_cons]

/-- Where no key comes twice, all members of a key are the one that is looked up. -/
theorem flatMap_ofMember (key : String) {members : List (String × Json)}
    (h : (members.map Prod.fst).Nodup) :
    (members.flatMap fun m => if m.1 = key then Entry.ofMember m.1 m.2 else []) =
      (object members).descend key := by
  rw [descend]
  induction members with
  | nil => rfl
  | cons m ms ih =>
    obtain ⟨k, v⟩ := m
    rw [List.map_cons, List.nodup_cons] at h
    by_cases hk : k = key
    · subst hk
      have hrest : (ms.flatMap fun m => if m.1 = k then Entry.ofMember m.1 m.2 else []) = [] := by
        refine List.flatMap_eq_nil_iff.mpr fun m hm => if_neg fun he => h.1 ?_
        exact List.mem_map.mpr ⟨m, hm, he⟩
      simp [hrest]
    · have hne : (key == k) = false := by simpa using Ne.symm hk
      simp only [List.flatMap_cons, if_neg hk, List.nil_append, List.lookup_cons, hne]
      exact ih h.2

/-- Searching finds what the value itself holds and what is found from the values right inside. -/
theorem perm_search (key : String) {v : Json} (h : v.Distinct) :
    (v.search key).Perm (v.held key ++ v.childValues.flatMap (search key)) := by
  cases v with
  | object members =>
    have hheld : (object members).held key = (object members).descend key := if_pos rfl
    rw [hheld, ← flatMap_ofMember key h.1, search, searchMembers_eq, childValues,
      List.flatMap_map]
    exact (List.flatMap_append_perm members _ _).symm
  | array items =>
    rw [search, searchItems_eq]
    exact .refl _
  | _ => exact .refl _

end Json

namespace Entry

/-! ### All nodes below an entry -/

theorem sizeOf_value_lt {e c : Entry} (hc : c ∈ e.children) : sizeOf c.value < sizeOf e.value := by
  obtain ⟨name, index, v⟩ := e
  cases v with
  | object members =>
    obtain ⟨⟨k, w⟩, hm, rfl⟩ := List.mem_map.mp hc
    have := List.sizeOf_lt_of_mem hm
    simp only [Prod.mk.sizeOf_spec] at this
    simp only [Json.object.sizeOf_spec]
    omega
  | array items =>
    obtain ⟨i, w, hi, rfl⟩ := mem_elements.mp hc
    have := List.sizeOf_lt_of_mem (List.mem_of_getElem? hi)
    simp only [Json.array.sizeOf_spec]
    omega
  | _ => cases hc

/-- The entry and all that is reached from it by going to children, in the order of the
document. -/
def nodes (e : Entry) : List Entry := e :: e.children.attach.flatMap fun c => nodes c.1
termination_by sizeOf e.value
decreasing_by exact sizeOf_value_lt c.2

theorem nodes_eq (e : Entry) : e.nodes = e :: e.children.flatMap nodes := by
  rw [nodes, List.flatMap_subtype fun c _ => rfl, List.unattach_attach]

theorem distinct_of_mem_children {e c : Entry} (h : e.value.Distinct) (hc : c ∈ e.children) :
    c.value.Distinct := by
  obtain ⟨name, index, v⟩ := e
  cases v with
  | object members =>
    obtain ⟨⟨k, w⟩, hm, rfl⟩ := List.mem_map.mp hc
    exact Json.distinct_of_mem_members h.2 hm
  | array items =>
    obtain ⟨i, w, hi, rfl⟩ := mem_elements.mp hc
    exact Json.distinct_of_mem_items h (List.mem_of_getElem? hi)
  | _ => cases hc

/-- Searching finds what each of the nodes holds. -/
theorem perm_search_nodes (key : String) (e : Entry) :
    e.value.Distinct → (e.value.search key).Perm (e.nodes.flatMap fun n => n.value.held key) := by
  induction e using nodes.induct with
  | case1 e ih =>
    intro h
    have hchildren : (e.value.childValues.flatMap (Json.search key)).Perm
        (e.children.flatMap fun c => c.nodes.flatMap fun n => n.value.held key) := by
      rw [← map_value_children, List.flatMap_map]
      exact List.Perm.flatMap_left _ fun c hc => ih ⟨c, hc⟩ (distinct_of_mem_children h hc)
    rw [nodes_eq, List.flatMap_cons, List.flatMap_assoc]
    exact (Json.perm_search key h).trans (hchildren.append_left _)

/-- Only the objects among some nodes hold anything. -/
theorem flatMap_descend_objects (key : String) (ns : List Entry) :
    ((ns.filter (·.kind = .object)).flatMap fun n => n.value.descend key) =
      ns.flatMap fun n => n.value.held key := by
  have hheld : ∀ n ∈ ns.filter (·.kind = .object), n.value.descend key = n.value.held key := by
    intro n hn
    have hobject : n.kind = .object := of_decide_eq_true (List.mem_filter.mp hn).2
    exact (if_pos hobject).symm
  rw [List.flatMap_congr hheld]
  refine flatMap_filter_eq fun n _ hn => ?_
  have hother : ¬ n.kind = .object := of_decide_eq_false hn
  exact if_neg hother

end Entry

namespace Collection

theorem entries_getKey_singleton (name key : String) (e : Entry) :
    (getKey ⟨name, [e]⟩ key).entries = e.value.descend key := by
  simp [getKey]

/-- To search for a key is to descend by it from each object among the entries and all that is
reached from them, one after the other; and what descending from the entries themselves finds is
found in the same order. -/
theorem entries_search_perm (c : Collection) (key : String)
    (h : ∀ e ∈ c.entries, e.value.Distinct) :
    (c.search key).entries.Perm
        (c.entries.flatMap fun e => (e.nodes.filter (·.kind = .object)).flatMap fun n =>
          (getKey ⟨c.name, [n]⟩ key).entries) ∧
      (c.getKey key).entries.Sublist (c.search key).entries := by
  refine ⟨?_, List.Sublist.flatMap_right _ fun e _ => e.value.descend_sublist_search key⟩
  simp only [entries_getKey_singleton, Entry.flatMap_descend_objects]
  exact List.Perm.flatMap_left _ fun e he => e.perm_search_nodes key (h e he)

/-- A key inside an array that is stored under the same key: each of the two objects holds some
of what is found. -/
theorem entries_search_perm_nested :
    let inner : Json := .object [("a", .ofInt 1)]
    let c : Collection := .root (.object [("a", .array [inner, .ofInt 2])])
    (∀ e ∈ c.entries, e.value.Distinct) ∧
      [⟨.key "a", some 0, inner⟩, ⟨.key "a", some 1, .ofInt 2⟩, ⟨.key "a", none, .ofInt 1⟩].Perm
        (c.entries.flatMap fun e => (e.nodes.filter (·.kind = .object)).flatMap fun n =>
          (getKey ⟨c.name, [n]⟩ "a").entries) ∧
      [⟨.key "a", some 0, inner⟩, ⟨.key "a", some 1, .ofInt 2⟩].Sublist (c.search "a").entries := by
  intro inner c
  have hdistinct : ∀ e ∈ c.entries, e.value.Distinct := by
    intro e he
    obtain rfl := List.mem_singleton.mp he
    simp [Entry.root, inner, Json.Distinct, Json.DistinctMembers, Json.DistinctItems, Json.ofInt]
  exact ⟨hdistinct, c.entries_search_perm "a" hdistinct⟩

end Collection

end PathQuery
