import PathQuery.Proofs.Document.Path
import PathQuery.Proofs.Query.DocumentOrder

/-! # Where answers come from

Every answer of a query is at a path in the document and is called as that path says; and an
array that is held by a member is never an answer itself, only its elements are
(`eval_provenance`).

Three steps make entries: descending, searching and spreading.  Of each it is shown that
what it makes is `Found` from the entry it starts at, that is, reached by going to children
and no array but an element of one.  The other two steps only leave entries out. -/
namespace PathQuery

namespace Json

/-- What is stored under a key at the top is among what is stored under it anywhere. -/
theorem ofMember_sublist_searchMembers {key : String} {v : Json} :
    ∀ {members : List (String × Json)}, members.lookup key = some v →
      (Entry.ofMember key v).Sublist (searchMembers key members)
  | [], h => nomatch h
  | (k, w) :: ms, h => by
    rw [searchMembers, List.append_assoc]
    by_cases hk : k = key
    · subst hk
      rw [List.lookup_cons_self, Option.some.injEq] at h
      subst h
      rw [if_pos rfl]
      exact List.sublist_append_left _ _
    · have hne : (key == k) = false := by simpa using Ne.symm hk
      rw [List.lookup_cons, hne] at h
      exact ((ofMember_sublist_searchMembers h).trans (List.sublist_append_right _ _)).trans
        (List.sublist_append_right _ _)

mutual

/-- Searching finds all that descending finds, and in the same order. -/
theorem descend_sublist_search (key : String) : ∀ v : Json,
    (v.descend key).Sublist (v.search key)
  | null | bool _ | number _ | string _ => List.nil_sublist _
  | object members => by
    rw [descend, search]
    split
    · rename_i w hw
      exact ofMember_sublist_searchMembers hw
    · exact List.nil_sublist _
  | array items => descendItems_sublist_searchItems key items

theorem descendItems_sublist_searchItems (key : String) : ∀ items : List Json,
    (descendItems key items).Sublist (searchItems key items)
  | [] => List.nil_sublist _
  | v :: vs => (descend_sublist_search key v).append (descendItems_sublist_searchItems key vs)

end

end Json

namespace Entry

/-- Found from an entry: reached by children, and no array that a member holds. -/
structure Found (e f : Entry) : Prop where
  reaches : e.Reaches f
  element : f.kind = .array → ∃ i, f.index = some i

/-- What is found from a child is found from its parent. -/
theorem Found.of_child {e c f : Entry} (hc : c ∈ e.children) (h : c.Found f) : e.Found f :=
  ⟨(reaches_of_mem_children hc).trans h.reaches, h.element⟩

theorem mem_children_of_member {e : Entry} {members : List (String × Json)}
    (he : e.value = .object members) {k : String} {v : Json} (h : (k, v) ∈ members) :
    ⟨.key k, none, v⟩ ∈ e.children := by
  rw [children, he]
  exact List.mem_map_of_mem h

theorem exists_child_of_item {e : Entry} {items : List Json} (he : e.value = .array items)
    {v : Json} (h : v ∈ items) : ∃ c ∈ e.children, c.value = v := by
  obtain ⟨i, hi⟩ := List.mem_iff_getElem?.mp h
  refine ⟨⟨e.name, some i, v⟩, ?_, rfl⟩
  rw [children, he]
  exact mem_elements.mpr ⟨i, v, hi, rfl⟩

/-- The elements of an array are found from it. -/
theorem found_of_mem_children {e c : Entry} (he : e.kind ≠ .object) (hc : c ∈ e.children) :
    e.Found c := by
  refine ⟨reaches_of_mem_children hc, fun _ => ?_⟩
  obtain ⟨name, index, v⟩ := e
  cases v with
  | object => exact absurd rfl he
  | array =>
    obtain ⟨i, w, -, rfl⟩ := mem_elements.mp hc
    exact ⟨i, rfl⟩
  | _ => cases hc

theorem found_self {e : Entry} (he : e.kind ≠ .array) : e.Found e :=
  ⟨Reaches.refl e, fun h => absurd h he⟩

theorem ofMember_array (k : String) {v : Json} (hv : v.kind = .array) :
    ofMember k v = (⟨.key k, none, v⟩ : Entry).children := by
  cases v with
  | array => rfl
  | _ => cases hv

theorem ofMember_of_ne (k : String) {v : Json} (hv : v.kind ≠ .array) :
    ofMember k v = [⟨.key k, none, v⟩] := by
  cases v with
  | array => exact absurd rfl hv
  | _ => rfl

theorem found_ofMember {k : String} {v : Json} {f : Entry} (hf : f ∈ ofMember k v) :
    (⟨.key k, none, v⟩ : Entry).Found f := by
  by_cases hv : v.kind = .array
  · rw [ofMember_array k hv] at hf
    exact found_of_mem_children (by simp [kind, hv]) hf
  · rw [ofMember_of_ne k hv, List.mem_singleton] at hf
    subst hf
    exact found_self hv

theorem found_spread {e f : Entry} (hf : f ∈ e.spread) : e.Found f := by
  rw [spread] at hf
  split at hf
  · obtain ⟨c, hc, hf⟩ := List.mem_flatMap.mp hf
    refine .of_child hc ?_
    split at hf
    · rename_i hkind
      exact found_of_mem_children (by simp [hkind]) hf
    · rename_i hkind
      rw [List.mem_singleton] at hf
      subst hf
      exact found_self hkind
  · rename_i hkind
    exact found_of_mem_children hkind hf

/-! ### Descending and searching -/

mutual

theorem found_search (key : String) : ∀ (v : Json) {e f : Entry}, e.value = v →
    f ∈ v.search key → e.Found f
  | .object members, _, _, he, hf =>
    found_searchMembers key members (fun _ _ hm => mem_children_of_member he hm) hf
  | .array items, _, _, he, hf =>
    found_searchItems key items (fun _ hv => exists_child_of_item he hv) hf
  | .null, _, _, _, hf | .bool _, _, _, _, hf | .number _, _, _, _, hf
  | .string _, _, _, _, hf => nomatch hf

theorem found_searchMembers (key : String) : ∀ (members : List (String × Json)) {e f : Entry},
    (∀ k v, (k, v) ∈ members → ⟨.key k, none, v⟩ ∈ e.children) →
    f ∈ Json.searchMembers key members → e.Found f
  | [], _, _, _, hf => nomatch hf
  | (k, v) :: ms, _, _, hchild, hf => by
    have hc := hchild k v List.mem_cons_self
    rw [Json.searchMembers, List.append_assoc] at hf
    rcases List.mem_append.mp hf with hf | hf
    · split at hf
      · exact .of_child hc (found_ofMember hf)
      · cases hf
    · rcases List.mem_append.mp hf with hf | hf
      · exact .of_child hc (found_search key v rfl hf)
      · exact found_searchMembers key ms
          (fun k v hm => hchild k v (List.mem_cons_of_mem _ hm)) hf

theorem found_searchItems (key : String) : ∀ (items : List Json) {e f : Entry},
    (∀ v ∈ items, ∃ c ∈ e.children, c.value = v) → f ∈ Json.searchItems key items → e.Found f
  | [], _, _, _, hf => nomatch hf
  | v :: vs, _, _, hchild, hf => by
    rw [Json.searchItems] at hf
    rcases List.mem_append.mp hf with hf | hf
    · obtain ⟨c, hc, hv⟩ := hchild v List.mem_cons_self
      exact .of_child hc (found_search key v hv hf)
    · exact found_searchItems key vs (fun w hw => hchild w (List.mem_cons_of_mem _ hw)) hf

end

theorem found_descend {key : String} {e f : Entry} (hf : f ∈ e.value.descend key) : e.Found f :=
  found_search key e.value rfl ((Json.descend_sublist_search key e.value).subset hf)

end Entry

/-! ### Steps and runs -/

/-- The entry itself, or one that is found from it. -/
def Entry.Yields (r e : Entry) : Prop := e = r ∨ r.Found e

theorem Entry.Yields.found {r e f : Entry} (h : r.Yields e) (hf : e.Found f) : r.Yields f := by
  rcases h with rfl | h
  · exact .inr hf
  · exact .inr ⟨h.reaches.trans hf.reaches, hf.element⟩

theorem Entry.yields_flatMap {r : Entry} {es : List Entry} {g : Entry → List Entry}
    (hes : ∀ e ∈ es, r.Yields e) (hg : ∀ e, ∀ f ∈ g e, e.Found f) :
    ∀ f ∈ es.flatMap g, r.Yields f := by
  intro f hf
  obtain ⟨e, he, hf⟩ := List.mem_flatMap.mp hf
  exact (hes e he).found (hg e f hf)

/-- What one step preserves. -/
theorem Step.yields_apply {r : Entry} {s : Step} {c d : Collection}
    (hc : ∀ e ∈ c.entries, r.Yields e) (h : s.apply c = .ok d) :
    ∀ e ∈ d.entries, r.Yields e := by
  cases s with
  | descend key =>
    cases h
    exact Entry.yields_flatMap hc fun _ _ hf => Entry.found_descend hf
  | spread =>
    cases h
    exact Entry.yields_flatMap hc fun _ _ hf => Entry.found_spread hf
  | search key =>
    cases h
    exact Entry.yields_flatMap hc fun e _ hf => Entry.found_search key e.value rfl hf
  | filter p =>
    cases h
    exact fun f hf => hc f (List.mem_of_mem_filter hf)
  | nth i =>
    obtain ⟨e, he, rfl⟩ := Collection.select_eq_ok_iff.mp h
    intro f hf
    rw [List.mem_singleton] at hf
    subst hf
    exact hc f (List.mem_of_getElem? he)

namespace Query

theorem yields_run {r : Entry} {ss : List Step} {c d : Collection}
    (hc : ∀ e ∈ c.entries, r.Yields e) (h : run c ss = .ok d) : ∀ e ∈ d.entries, r.Yields e :=
  run_preserves (P := fun c => ∀ e ∈ c.entries, r.Yields e)
    (fun _ _ _ _ hc happly => Step.yields_apply hc happly) hc h

end Query

/-- An entry at the end of a path, as queries answer with it. -/
structure Entry.AnswersAt (v : Json) (p : Path) (e : Entry) : Prop where
  /-- It wraps the node at the end of the path. -/
  node : v.node? p = some e.value
  /-- The whole document has the mark of the root for a name, and no place. -/
  whole : p = [] → e.name = .root ∧ e.index = none
  /-- A member is called by its key, has no place, and is no array. -/
  member : ∀ r k, p = r ++ [.key k] → e.name = .key k ∧ e.index = none ∧ e.kind ≠ .array
  /-- An element has its place in the array, and is called by the last key on the way. -/
  element : ∀ r i, p = r ++ [.place i] → e.index = some i ∧ e.name = p.name

theorem Entry.Yields.exists_answersAt {v : Json} {e : Entry} (h : (root v).Yields e)
    (hdistinct : v.Distinct) : ∃ p, e.AnswersAt v p := by
  rcases h with rfl | h
  · refine ⟨[], rfl, fun _ => ⟨rfl, rfl⟩, fun r k hp => ?_, fun r i hp => ?_⟩
    · simp at hp
    · simp at hp
  · obtain ⟨p, hnode, hname, hindex⟩ := h.reaches.exists_isAt hdistinct
    refine ⟨p, hnode, fun hp => ?_, fun r k hp => ?_, fun r i hp => ?_⟩
    · subst hp
      exact ⟨hname, hindex⟩
    · subst hp
      rw [Path.name_append_key] at hname
      rw [Path.place?_append_key] at hindex
      refine ⟨hname, hindex, fun hkind => ?_⟩
      -- an array would be the element of one, and so have a place
      obtain ⟨i, hi⟩ := h.element hkind
      rw [hindex] at hi
      cases hi
    · subst hp
      rw [Path.place?_append_place] at hindex
      exact ⟨hindex, hname⟩

/-- Every answer of a query is at a path in the document and is called as the path says; the
array that a member holds is no answer. -/
theorem Query.eval_provenance (doc : Document) (q : Query) {c : Collection}
    (h : q.eval doc.root = .ok c) {e : Entry} (he : e ∈ c.entries) :
    (∃ p, e.AnswersAt doc.value p) ∧ ∀ k items, e ≠ ⟨.key k, none, .array items⟩ := by
  have hroot : ∀ e ∈ doc.root.entries, (Entry.root doc.value).Yields e :=
    fun e he => .inl (List.mem_singleton.mp he)
  have hyields := yields_run hroot h e he
  refine ⟨hyields.exists_answersAt doc.distinct, ?_⟩
  rintro k items rfl
  rcases hyields with hself | hfound
  · cases hself
  · obtain ⟨i, hi⟩ := hfound.element rfl
    cases hi

/-- An element of an array inside an array is called by the key that the outer one is stored
under. -/
theorem Query.eval_provenance_nested :
    (∃ p, (⟨.key "a", some 1, .bool true⟩ : Entry).AnswersAt
        (.object [("a", .array [.array [.null, .bool true]])]) p) ∧
      ∀ k items, (⟨.key "a", some 1, .bool true⟩ : Entry) ≠ ⟨.key k, none, .array items⟩ := by
  let doc : Document := .ofJson (.object [("a", .array [.array [.null, .bool true]])])
  have heval : Query.eval ⟨[.search "a", .spread]⟩ doc.root = .ok ⟨"*",
      [⟨.key "a", some 0, .null⟩, ⟨.key "a", some 1, .bool true⟩]⟩ := rfl
  exact Query.eval_provenance doc _ heval (by simp)

end PathQuery
