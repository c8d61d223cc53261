import Mathlib.Data.List.Induction
import PathQuery.Proofs.Query.CanonicalText
import PathQuery.Proofs.Query.Provenance

/-! # Every answer has an address

The query of a path (`Path.query`) descends by each key and picks by each place.  Where a
place follows a key, descending has opened the array already; any other array is opened by
spreading it first.  So a node that can be an answer at all is the one answer to the query of
its path, whatever the keys on the way are, and that query has a text
(`eval_query_of_node`).

The induction goes along the path from its end.  It also has to say what the query of a path
to an array held by a member leads to: the elements of the array (`Path.entries`). -/
namespace PathQuery

/-- The steps of a hop that comes after the hop `before`. -/
def Hop.steps (before : Option Hop) : Hop → List Step
  | key k => [.descend k]
  | place i =>
    match before with
    | some (key _) => [.nth i]
    | _ => [.spread, .nth i]

namespace Path

/-- The steps along a path that goes on after the hop `before`. -/
def stepsAfter (before : Option Hop) : Path → List Step
  | [] => []
  | h :: p => h.steps before ++ stepsAfter (some h) p

/-- The query that follows a path. -/
def query (p : Path) : Query := ⟨stepsAfter none p⟩

/-- Where the query of a path leads, if the node there is `v`. -/
def entries (p : Path) (v : Json) : List Entry :=
  match p.getLast? with
  | some (.key k) => Entry.ofMember k v
  | _ => [⟨p.name, p.place?, v⟩]

theorem stepsAfter_append (before : Option Hop) (p : Path) (h : Hop) :
    stepsAfter before (p ++ [h]) = stepsAfter before p ++ h.steps (p.getLast?.or before) := by
  induction p generalizing before with
  | nil => simp [stepsAfter]
  | cons g p ih =>
    have hlast : (g :: p).getLast?.or before = p.getLast?.or (some g) := by
      rw [List.getLast?_cons]
      cases p.getLast? <;> rfl
    rw [List.cons_append, stepsAfter, ih, stepsAfter, hlast, List.append_assoc]

theorem entries_append_key (p : Path) (k : String) (v : Json) :
    entries (p ++ [.key k]) v = Entry.ofMember k v := by
  simp [entries]

theorem entries_append_place (p : Path) (i : Nat) (v : Json) :
    entries (p ++ [.place i]) v = [⟨p.name, some i, v⟩] := by
  simp [entries]

/-- Only an array that a member holds is replaced by its elements. -/
theorem entries_eq_singleton {p : Path} {v : Json}
    (h : ∀ r k, p = r ++ [.key k] → v.kind ≠ .array) : p.entries v = [⟨p.name, p.place?, v⟩] := by
  rcases List.eq_nil_or_concat p with rfl | ⟨r, s, rfl⟩
  · rfl
  · rw [List.concat_eq_append] at h ⊢
    cases s with
    | key k =>
      rw [entries_append_key, Entry.ofMember_of_ne k (h r k rfl), name_append_key,
        place?_append_key]
    | place i => rw [entries_append_place, name_append_place, place?_append_place]

end Path

/-! ### Following a path -/

theorem Entry.getElem?_elements (name : Name) {items : List Json} {i : Nat} {v : Json}
    (h : items[i]? = some v) : (elements name items)[i]? = some ⟨name, some i, v⟩ := by
  simp [elements, h]

namespace Query

/-- From a node that is an object, a key leads on. -/
theorem run_key {c : Collection} {e : Entry} (hc : c.entries = [e]) {k : String} {v : Json}
    (h : e.value.hop? (.key k) = some v) :
    ∃ d, run c [.descend k] = .ok d ∧ d.entries = Entry.ofMember k v := by
  obtain ⟨members, he, hlook⟩ := Json.hop?_key_eq_some.mp h
  refine ⟨c.getKey k, rfl, ?_⟩
  simp [Collection.getKey, hc, he, Json.descend, hlook]

/-- From the elements of an array, a place leads on. -/
theorem run_nth {c : Collection} {name : Name} {items : List Json}
    (hc : c.entries = Entry.elements name items) {i : Nat} {v : Json} (h : items[i]? = some v) :
    ∃ d, run c [.nth i] = .ok d ∧ d.entries = [⟨name, some i, v⟩] := by
  have hget : c.entries[i]? = some ⟨name, some i, v⟩ := hc ▸ Entry.getElem?_elements name h
  have hselect : (Step.nth i).apply c = .ok ⟨c.name, [⟨name, some i, v⟩]⟩ :=
    Collection.select_eq_ok_iff.mpr ⟨_, hget, rfl⟩
  refine ⟨⟨c.name, [⟨name, some i, v⟩]⟩, ?_, rfl⟩
  rw [run, hselect]
  rfl

/-- From a node that is an array, spreading leads to its elements. -/
theorem run_place {c : Collection} {e : Entry} (hc : c.entries = [e]) {i : Nat} {v : Json}
    (h : e.value.hop? (.place i) = some v) :
    ∃ d, run c [.spread, .nth i] = .ok d ∧ d.entries = [⟨e.name, some i, v⟩] := by
  obtain ⟨items, he, hi⟩ := Json.hop?_place_eq_some.mp h
  have hspread : c.spread.entries = Entry.elements e.name items := by
    simp [Collection.spread, hc, Entry.spread, Entry.kind, he, Json.kind, Entry.children]
  exact run_nth hspread hi

/-- The query of a path leads to the node there. -/
theorem run_stepsAfter {v w : Json} {p : Path} (h : v.node? p = some w) :
    ∃ c, run (.root v) (p.stepsAfter none) = .ok c ∧ c.entries = p.entries w := by
  induction p using List.reverseRecOn generalizing w with
  | nil =>
    cases h
    exact ⟨.root v, rfl, rfl⟩
  | append_singleton p s ih =>
    obtain ⟨u, hu, hs⟩ := Json.node?_append_eq_some.mp h
    obtain ⟨c, hc, hentries⟩ := ih hu
    rw [Path.stepsAfter_append, run_append, hc, Option.or_none]
    cases s with
    | key k =>
      -- the node before is an object, so the query of `p` leads to it alone
      have hkind : u.kind ≠ .array := by
        obtain ⟨members, rfl, -⟩ := Json.hop?_key_eq_some.mp hs
        simp [Json.kind]
      rw [Path.entries_eq_singleton fun _ _ _ => hkind] at hentries
      rw [Path.entries_append_key]
      exact run_key hentries hs
    | place i =>
      rw [Path.entries_append_place]
      rcases List.eq_nil_or_concat p with rfl | ⟨r, b, rfl⟩
      · exact run_place hentries hs
      · rw [List.concat_eq_append] at hentries ⊢
        cases b with
        | key k =>
          obtain ⟨items, rfl, hi⟩ := Json.hop?_place_eq_some.mp hs
          rw [Path.entries_append_key] at hentries
          simpa [Hop.steps, Except.bind] using run_nth hentries hi
        | place j =>
          rw [Path.entries_append_place] at hentries
          simpa [Hop.steps, Except.bind] using run_place hentries hs

/-! ### The text of the query -/

theorem writable_stepsAfter {p : Path} (h : ∀ i, Hop.place i ∈ p → i < 2 ^ 64)
    (before : Option Hop) : ∀ s ∈ p.stepsAfter before, s.Writable := by
  induction p generalizing before with
  | nil => exact fun s hs => nomatch hs
  | cons g p ih =>
    intro s hs
    rcases List.mem_append.mp hs with hs | hs
    · cases g with
      | key k =>
        rw [List.mem_singleton.mp hs]
        trivial
      | place i =>
        have hi : i < 2 ^ 64 := h i List.mem_cons_self
        have hcases : s = .spread ∨ s = .nth i := by
          simp only [Hop.steps] at hs
          split at hs
          · exact .inr (List.mem_singleton.mp hs)
          · simpa using hs
        rcases hcases with rfl | rfl
        · trivial
        · exact hi
    · exact ih (fun i hi => h i (List.mem_cons_of_mem _ hi)) _ s hs

/-- A place on a path is one of an array that the path passes. -/
theorem place_lt_of_node {v w : Json} {p : Path} (h : v.node? p = some w) {i : Nat}
    (hi : Hop.place i ∈ p) : ∃ r items, v.node? r = some (.array items) ∧ i < items.length := by
  obtain ⟨r, t, rfl⟩ := List.append_of_mem hi
  rw [Json.node?_append, Option.bind_eq_some_iff] at h
  obtain ⟨u, hu, h⟩ := h
  obtain ⟨x, hx, -⟩ := Option.bind_eq_some_iff.mp h
  obtain ⟨items, rfl, hx⟩ := Json.hop?_place_eq_some.mp hx
  exact ⟨r, items, hu, (List.getElem?_eq_some_iff.mp hx).1⟩

/-- Every node but an array that a member holds is the one answer to the query of its path,
and the text of that query is read. -/
theorem eval_query_of_node (doc : Document) {p : Path} {w : Json}
    (hlength : ∀ r items, doc.value.node? r = some (.array items) → items.length < 2 ^ 64)
    (hnode : doc.value.node? p = some w) (hmember : ∀ r k, p = r ++ [.key k] → w.kind ≠ .array) :
    read p.query.text = .ok p.query ∧
      ∃ c, p.query.eval doc.root = .ok c ∧ c.entries = [⟨p.name, p.place?, w⟩] := by
  have hplaces : ∀ i, Hop.place i ∈ p → i < 2 ^ 64 := by
    intro i hi
    obtain ⟨r, items, hr, hlt⟩ := place_lt_of_node hnode hi
    exact Nat.lt_trans hlt (hlength r items hr)
  refine ⟨read_text_of_writable (writable_stepsAfter hplaces none), ?_⟩
  obtain ⟨c, hc, hentries⟩ := run_stepsAfter hnode
  exact ⟨c, hc, by rw [hentries, Path.entries_eq_singleton hmember]⟩

/-- A key that looks like the wildcard, below an array: the path has the text
`*[0]."*"`. -/
theorem eval_query_of_starred_key :
    read (Path.query [.place 0, .key "*"]).text = .ok (Path.query [.place 0, .key "*"]) ∧
      ∃ c, (Path.query [.place 0, .key "*"]).eval
          (Document.ofJson (.array [.object [("*", .null)]])).root = .ok c ∧
        c.entries = [⟨.key "*", none, .null⟩] := by
  let doc : Document := .ofJson (.array [.object [("*", .null)]])
  have helement : ∀ s u, doc.value.hop? s = some u → u = .object [("*", .null)] := by
    rintro (k | _ | i) u h
    · cases h
    · exact (Option.some.inj h).symm
    · cases h
  have hmember : ∀ s u, (Json.object [("*", .null)]).hop? s = some u → u = .null := by
    rintro (k | i) u h
    · obtain ⟨ls, rs, hms, -⟩ := List.lookup_eq_some_iff.mp h
      have hmem : (k, u) ∈ [("*", Json.null)] := by simp [hms]
      exact (Prod.mk.inj (List.mem_singleton.mp hmem)).2
    · cases h
  -- the only array is the whole document
  have hlength : ∀ r items, doc.value.node? r = some (.array items) → items.length < 2 ^ 64 := by
    rintro (_ | ⟨s, _ | ⟨t, r⟩⟩) items h
    · cases h
      decide
    · obtain ⟨u, hu, h⟩ := Option.bind_eq_some_iff.mp h
      rw [helement s u hu] at h
      cases h
    · obtain ⟨u, hu, h⟩ := Option.bind_eq_some_iff.mp h
      obtain ⟨x, hx, h⟩ := Option.bind_eq_some_iff.mp h
      rw [hmember t x (helement s u hu ▸ hx)] at h
      cases r with
      | nil => cases h
      | cons a r =>
        obtain ⟨y, hy, -⟩ := Option.bind_eq_some_iff.mp h
        cases a <;> cases hy
  exact eval_query_of_node doc hlength rfl fun _ _ _ => by decide

end Query

end PathQuery
