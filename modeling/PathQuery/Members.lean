/-! # Members

Lists of members, each a key with a value, in the order in which the keys first came.
Setting a key that is there keeps its place; so a list that is built by setting keys has
each key once. -/
namespace PathQuery.Members

variable {α : Type}

/-- Members with `key` set to `value`: in its place if the key is there, and else at
the end. -/
def put (key : String) (value : α) : List (String × α) → List (String × α)
  | [] => [(key, value)]
  | (k, v) :: ms => if k = key then (k, value) :: ms else (k, v) :: put key value ms

/-- Members put one after the other. -/
def collect (ms : List (String × α)) : List (String × α) :=
  ms.foldl (fun acc m => put m.1 m.2 acc) []

theorem mem_keys_put (key k : String) (value : α) (ms : List (String × α)) :
    k ∈ (put key value ms).map Prod.fst ↔ k = key ∨ k ∈ ms.map Prod.fst := by
  induction ms with
  | nil => simp [put]
  | cons m ms ih =>
    obtain ⟨k', v⟩ := m
    by_cases h : k' = key
    · subst h; simp [put]
    · simp only [put, h, if_false, List.map_cons, List.mem_cons, ih]
      grind

theorem nodup_keys_put (key : String) (value : α) {ms : List (String × α)}
    (h : (ms.map Prod.fst).Nodup) : ((put key value ms).map Prod.fst).Nodup := by
  induction ms with
  | nil => simp [put]
  | cons m ms ih =>
    obtain ⟨k', v⟩ := m
    rw [List.map_cons, List.nodup_cons] at h
    by_cases hk : k' = key
    · subst hk
      simpa only [put, if_true, List.map_cons, List.nodup_cons] using h
    · simp only [put, hk, if_false, List.map_cons, List.nodup_cons, mem_keys_put]
      exact ⟨fun h' => h'.elim False.elim h.1, ih h.2⟩

/-- Collected members have distinct keys. -/
theorem nodup_keys_collect (ms : List (String × α)) :
    ((collect ms).map Prod.fst).Nodup := by
  suffices ∀ acc : List (String × α), (acc.map Prod.fst).Nodup →
      ((ms.foldl (fun acc m => put m.1 m.2 acc) acc).map Prod.fst).Nodup from
    this [] List.nodup_nil
  induction ms with
  | nil => exact fun _ h => h
  | cons m ms ih => exact fun acc h => ih _ (nodup_keys_put m.1 m.2 h)

/-- What is found under a key is a member. -/
theorem mem_of_lookup {ms : List (String × α)} {key : String} {value : α}
    (h : ms.lookup key = some value) : (key, value) ∈ ms := by
  obtain ⟨ls, rs, rfl, -⟩ := List.lookup_eq_some_iff.mp h
  simp

/-- Where no key comes twice, every member is found under its key. -/
theorem lookup_of_mem {ms : List (String × α)} (h : (ms.map Prod.fst).Nodup) {key : String}
    {value : α} (hm : (key, value) ∈ ms) : ms.lookup key = some value := by
  obtain ⟨ls, rs, rfl⟩ := List.append_of_mem hm
  rw [List.map_append, List.map_cons, List.nodup_append] at h
  refine List.lookup_eq_some_iff.mpr ⟨ls, rs, rfl, fun m hl => ?_⟩
  have hne : m.1 ≠ key := h.2.2 m.1 (List.mem_map_of_mem hl) key List.mem_cons_self
  simpa using hne.symm

/-- A key under which nothing is found is not there. -/
theorem not_mem_keys_of_lookup {ms : List (String × α)} {k : String} (h : ms.lookup k = none) :
    k ∉ ms.map Prod.fst := by
  intro hk
  obtain ⟨m, hm, rfl⟩ := List.mem_map.mp hk
  have hne := List.lookup_eq_none_iff.mp h m hm
  simp at hne

theorem put_of_not_mem {k : String} (v : α) {ms : List (String × α)}
    (h : k ∉ ms.map Prod.fst) : put k v ms = ms ++ [(k, v)] := by
  induction ms with
  | nil => rfl
  | cons m ms ih =>
    obtain ⟨key, w⟩ := m
    rw [List.map_cons, List.mem_cons, not_or] at h
    rw [put, if_neg (Ne.symm h.1), ih h.2, List.cons_append]

theorem mem_put {k : String} {v : α} {ms : List (String × α)}
    {m : String × α} (h : m ∈ put k v ms) : m = (k, v) ∨ m ∈ ms := by
  induction ms with
  | nil => exact .inl (List.mem_singleton.mp h)
  | cons n ms ih =>
    obtain ⟨key, w⟩ := n
    by_cases hkey : key = k
    · rw [put, if_pos hkey, hkey] at h
      rcases List.mem_cons.mp h with rfl | h
      · exact .inl rfl
      · exact .inr (List.mem_cons_of_mem _ h)
    · rw [put, if_neg hkey] at h
      rcases List.mem_cons.mp h with rfl | h
      · exact .inr List.mem_cons_self
      · exact (ih h).imp_right (List.mem_cons_of_mem _)

/-- Members of distinct keys are collected as they are. -/
theorem collect_of_nodup {ms : List (String × α)}
    (h : (ms.map Prod.fst).Nodup) : collect ms = ms := by
  suffices ∀ acc : List (String × α), ((acc ++ ms).map Prod.fst).Nodup →
      ms.foldl (fun acc m => put m.1 m.2 acc) acc = acc ++ ms from this [] h
  clear h
  induction ms with
  | nil => exact fun acc _ => (List.append_nil acc).symm
  | cons m ms ih =>
    intro acc h
    have hnew : m.1 ∉ acc.map Prod.fst := by
      rw [List.map_append, List.nodup_append] at h
      exact fun hm => h.2.2 _ hm _ (List.mem_map_of_mem List.mem_cons_self) rfl
    have happend : acc ++ m :: ms = (acc ++ [m]) ++ ms := by
      rw [List.append_assoc, List.singleton_append]
    rw [List.foldl_cons, put_of_not_mem m.2 hnew, happend]
    exact ih _ (happend ▸ h)

end PathQuery.Members
