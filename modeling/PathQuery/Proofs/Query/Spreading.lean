import PathQuery.Proofs.Query.Searching

/-! # Spreading and descending

Spreading is descending by every key at once.  It opens an object's members as descending by
their keys would, one key after the other (`Entry.spread_object`), so under what name and place
an element of an array is found does not depend on the way that was taken.  Arrays are where the
two differ: descending passes through an array and goes on in its elements, while spreading
stops at them (`Collection.entries_get_wildcard`).

From objects alone, what spreading finds under one name is what descending by that name finds.
This needs that no object has a key twice, because descending looks up the first member of a key
only. -/
namespace PathQuery

namespace Entry

variable {e : Entry}

/-! ### Members and elements -/

theorem name_of_mem_ofMember {key : String} {v : Json} {f : Entry} (hf : f ∈ ofMember key v) :
    f.name = .key key := by
  by_cases hv : v.kind = .array
  · cases v with
    | array items =>
      obtain ⟨i, w, -, rfl⟩ := mem_elements.mp hf
      rfl
    | _ => cases hv
  · rw [ofMember_of_ne key hv, List.mem_singleton] at hf
    rw [hf]

/-- The members of an object are opened as descending by a key opens one of them. -/
theorem spread_object {members : List (String × Json)} (he : e.value = .object members) :
    e.spread = members.flatMap fun m => ofMember m.1 m.2 := by
  have hkind : e.kind = .object := by rw [kind, he, Json.kind]
  have hchildren : e.children = members.map fun m => ⟨.key m.1, none, m.2⟩ := by
    rw [children, he]
  rw [spread, if_pos hkind, hchildren, List.flatMap_map]
  refine List.flatMap_congr ?_
  intro m _
  split
  · rename_i harray
    rw [ofMember_array m.1 harray]
  · rename_i hother
    rw [ofMember_of_ne m.1 hother]

theorem spread_array {items : List Json} (he : e.value = .array items) :
    e.spread = elements e.name items := by
  have hkind : e.kind ≠ .object := by simp [kind, he, Json.kind]
  rw [spread, if_neg hkind, children, he]

theorem spread_scalar (he : e.isScalar = true) : e.spread = [] := by
  obtain ⟨name, index, v⟩ := e
  cases v <;> first | rfl | cases he

end Entry

namespace Json

/-! ### Keys of an object -/

variable {members : List (String × Json)}

/-- Descending by a key that comes once opens its member. -/
theorem descend_of_mem (h : (members.map Prod.fst).Nodup) {key : String} {v : Json}
    (hm : (key, v) ∈ members) : (object members).descend key = Entry.ofMember key v := by
  rw [descend, Members.lookup_of_mem h hm]

/-- Descending by each key of an object opens all of its members. -/
theorem flatMap_descend_keys (h : (members.map Prod.fst).Nodup) :
    ((members.map Prod.fst).flatMap fun key => (object members).descend key) =
      members.flatMap fun m => Entry.ofMember m.1 m.2 := by
  rw [List.flatMap_map]
  exact List.flatMap_congr fun m hm => descend_of_mem h hm

/-- The opened members of one name are those of one key. -/
theorem filter_flatMap_ofMember (h : (members.map Prod.fst).Nodup) (key : String) :
    ((members.flatMap fun m => Entry.ofMember m.1 m.2).filter (·.name = .key key)) =
      (object members).descend key := by
  rw [← flatMap_ofMember key h, List.filter_flatMap]
  refine List.flatMap_congr ?_
  intro m _
  -- all entries that a member is opened to have its key as their name
  by_cases hkey : m.1 = key
  · rw [if_pos hkey, List.filter_eq_self]
    intro f hf
    simpa [hkey] using Entry.name_of_mem_ofMember hf
  · rw [if_neg hkey, List.filter_eq_nil_iff]
    intro f hf
    simpa [Entry.name_of_mem_ofMember hf] using hkey

end Json

namespace Entry

variable {e : Entry}

/-! ### One entry -/

/-- An object is spread by descending by each of its keys, an array into its elements. -/
theorem spread_eq (h : e.value.Distinct) :
    e.spread =
      match e.value with
      | .object members => (members.map Prod.fst).flatMap fun key => e.value.descend key
      | .array items => items.mapIdx fun i v => ⟨e.name, some i, v⟩
      | _ => [] := by
  obtain ⟨name, index, v⟩ := e
  cases v with
  | object members => exact (spread_object rfl).trans (Json.flatMap_descend_keys h.1).symm
  | array items => exact spread_array rfl
  | _ => exact spread_scalar rfl

theorem filter_name_spread (h : e.value.Distinct) (hobject : e.kind = .object) (key : String) :
    e.spread.filter (·.name = .key key) = e.value.descend key := by
  obtain ⟨name, index, v⟩ := e
  cases v with
  | object members => rw [spread_object rfl, Json.filter_flatMap_ofMember h.1]
  | _ => cases hobject

end Entry

namespace Collection

/-- The wildcard finds, for each entry in turn, what descending by each key of an object finds,
or the elements of an array as they are, or nothing in a scalar.  From objects alone, what it
finds under a name is what descending by that name finds. -/
theorem entries_get_wildcard (c : Collection) (h : ∀ e ∈ c.entries, e.value.Distinct) :
    ((c.get wildcard).entries = c.entries.flatMap fun e =>
      match e.value with
      | .object members =>
        (members.map Prod.fst).flatMap fun key => (getKey ⟨c.name, [e]⟩ key).entries
      | .array items => items.mapIdx fun i v => ⟨e.name, some i, v⟩
      | _ => []) ∧
    ((∀ e ∈ c.entries, e.kind = .object) → ∀ key : String,
      (c.get wildcard).entries.filter (·.name = .key key) = (c.getKey key).entries) := by
  have hget : (c.get wildcard).entries = c.entries.flatMap Entry.spread := by
    rw [get, if_pos rfl, spread]
  constructor
  · simp only [hget, entries_getKey_singleton]
    exact List.flatMap_congr fun e he => Entry.spread_eq (h e he)
  · intro hobjects key
    rw [hget, List.filter_flatMap, getKey]
    exact List.flatMap_congr fun e he => Entry.filter_name_spread (h e he) (hobjects e he) key

/-- An object with a member that is called as the wildcard, and an array after it. -/
theorem entries_get_wildcard_starred :
    let e : Entry := .root (.object [("*", .array [.array [], .null]), ("b", .bool true)])
    let f : Entry := ⟨.key "k", some 3, .array [.array [.null], .null]⟩
    let c : Collection := ⟨"pair", [e, f]⟩
    let d : Collection := ⟨"one", [e]⟩
    ((∀ n ∈ c.entries, n.value.Distinct) ∧
      (c.get wildcard).entries =
        (getKey ⟨"pair", [e]⟩ "*").entries ++ (getKey ⟨"pair", [e]⟩ "b").entries ++
          [⟨.key "k", some 0, .array [.null]⟩, ⟨.key "k", some 1, .null⟩]) ∧
    (∀ n ∈ d.entries, n.value.Distinct) ∧ (∀ n ∈ d.entries, n.kind = .object) ∧
      (d.get wildcard).entries.filter (·.name = .key "*") = (d.getKey "*").entries := by
  intro e f c d
  have he : e.value.Distinct := by
    simp [e, Entry.root, Json.Distinct, Json.DistinctMembers, Json.DistinctItems]
  have hc : ∀ n ∈ c.entries, n.value.Distinct := by
    intro n hn
    rcases List.mem_pair.mp hn with rfl | rfl
    · exact he
    · simp [f, Json.Distinct, Json.DistinctItems]
  have hd : ∀ n ∈ d.entries, n.value.Distinct := by
    intro n hn
    rw [List.mem_singleton.mp hn]
    exact he
  have hobjects : ∀ n ∈ d.entries, n.kind = .object := by
    intro n hn
    rw [List.mem_singleton.mp hn]
    rfl
  exact ⟨⟨hc, (c.entries_get_wildcard hc).1⟩, hd, hobjects,
    (d.entries_get_wildcard hd).2 hobjects "*"⟩

end Collection

end PathQuery
