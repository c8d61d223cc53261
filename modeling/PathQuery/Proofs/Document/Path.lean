import Mathlib.Logic.Relation
import PathQuery.Entry.Basic

/-! # Paths in a document

A path leads to a node by keys of objects and places in arrays.  It also fixes how an
entry for the node is called (`Entry.IsAt`): by the last key on the way, and, if the path
ends in an array, with the place there.

Going from an entry to its children makes the path one hop longer
(`Entry.IsAt.exists_child`), so whatever is reached from the whole document by children
alone is at a path (`Entry.Reaches.exists_isAt`).  This needs that no object has a key
twice: of two members of one key only the first is found under it. -/
namespace PathQuery

/-- One step of a path: to a member of an object or to an element of an array. -/
inductive Hop where
  | key (k : String)
  | place (i : Nat)
  deriving DecidableEq, Repr

/-- The key of a hop to a member. -/
def Hop.key? : Hop → Option String
  | key k => some k
  | place _ => none

/-- The hops that lead to a node, from the whole document down. -/
abbrev Path := List Hop

namespace Path

/-- What a node at the end of the path is called: the last key on it, or the mark of the
whole document. -/
def name (p : Path) : Name :=
  match (p.filterMap Hop.key?).getLast? with
  | some k => .key k
  | none => .root

/-- The place in an array, if the path ends in one. -/
def place? (p : Path) : Option Nat :=
  match p.getLast? with
  | some (.place i) => some i
  | _ => none

@[simp] theorem name_nil : name [] = .root := rfl

@[simp] theorem name_append_key (p : Path) (k : String) : name (p ++ [.key k]) = .key k := by
  simp [name, Hop.key?]

@[simp] theorem name_append_place (p : Path) (i : Nat) : name (p ++ [.place i]) = p.name := by
  simp [name, Hop.key?]

@[simp] theorem place?_nil : place? [] = none := rfl

@[simp] theorem place?_append_key (p : Path) (k : String) : place? (p ++ [.key k]) = none := by
  simp [place?]

@[simp] theorem place?_append_place (p : Path) (i : Nat) :
    place? (p ++ [.place i]) = some i := by
  simp [place?]

end Path

namespace Json

/-- The value that one hop leads to. -/
def hop? : Hop → Json → Option Json
  | .key k, v => v.member? k
  | .place i, array items => items[i]?
  | .place _, _ => none

/-- The node at the end of a path. -/
def node? : Path → Json → Option Json
  | [], v => some v
  | h :: p, v => (v.hop? h).bind (node? p)

theorem node?_append (p q : Path) (v : Json) :
    v.node? (p ++ q) = (v.node? p).bind (node? q) := by
  induction p generalizing v with
  | nil => rfl
  | cons h p ih =>
    rw [List.cons_append, node?, node?]
    cases v.hop? h with
    | none => rfl
    | some w => exact ih w

/-- A path ends in one hop from the node before. -/
theorem node?_append_eq_some {p : Path} {h : Hop} {v w : Json} :
    v.node? (p ++ [h]) = some w ↔ ∃ u, v.node? p = some u ∧ u.hop? h = some w := by
  simp [node?_append, Option.bind_eq_some_iff, node?]

theorem hop?_key_eq_some {k : String} {v w : Json} :
    v.hop? (.key k) = some w ↔ ∃ members, v = object members ∧ members.lookup k = some w := by
  cases v <;> simp [hop?, member?]

theorem hop?_place_eq_some {i : Nat} {v w : Json} :
    v.hop? (.place i) = some w ↔ ∃ items, v = array items ∧ items[i]? = some w := by
  cases v <;> simp [hop?]

/-! ### Distinct keys below a node -/

theorem distinct_of_mem_items {items : List Json} (h : DistinctItems items) {v : Json}
    (hv : v ∈ items) : v.Distinct := by
  induction items with
  | nil => cases hv
  | cons w ws ih =>
    rcases List.mem_cons.mp hv with rfl | hv
    · exact h.1
    · exact ih h.2 hv

theorem distinct_of_mem_members {members : List (String × Json)} (h : DistinctMembers members)
    {k : String} {v : Json} (hv : (k, v) ∈ members) : v.Distinct := by
  induction members with
  | nil => cases hv
  | cons m ms ih =>
    rcases List.mem_cons.mp hv with rfl | hv
    · exact h.1
    · exact ih h.2 hv

end Json

namespace Entry

/-! ### Entries at the end of a path -/

/-- The entry wraps the node at the end of a path, and is called as the path says. -/
structure IsAt (v : Json) (p : Path) (e : Entry) : Prop where
  node : v.node? p = some e.value
  name : e.name = p.name
  index : e.index = p.place?

theorem isAt_root (v : Json) : (root v).IsAt v [] := ⟨rfl, rfl, rfl⟩

theorem mem_elements {name : Name} {items : List Json} {e : Entry} :
    e ∈ elements name items ↔ ∃ i w, items[i]? = some w ∧ e = ⟨name, some i, w⟩ := by
  simp only [elements, List.mem_mapIdx, List.getElem?_eq_some_iff]
  constructor
  · rintro ⟨i, hi, rfl⟩
    exact ⟨i, items[i], ⟨hi, rfl⟩, rfl⟩
  · rintro ⟨i, w, ⟨hi, rfl⟩, rfl⟩
    exact ⟨i, hi, rfl⟩

/-- A child is one hop further. -/
theorem IsAt.exists_child {v : Json} {p : Path} {e c : Entry} (h : e.IsAt v p)
    (hdistinct : e.value.Distinct) (hc : c ∈ e.children) :
    ∃ s, c.IsAt v (p ++ [s]) ∧ c.value.Distinct := by
  obtain ⟨name, index, w⟩ := e
  obtain ⟨hnode, hname, -⟩ := h
  dsimp only at hnode hname hdistinct
  cases w with
  | object members =>
    obtain ⟨⟨k, u⟩, hmem, rfl⟩ := List.mem_map.mp hc
    have hlook : members.lookup k = some u := Members.lookup_of_mem hdistinct.1 hmem
    refine ⟨.key k, ⟨?_, by simp, by simp⟩, Json.distinct_of_mem_members hdistinct.2 hmem⟩
    exact Json.node?_append_eq_some.mpr ⟨_, hnode, hlook⟩
  | array items =>
    obtain ⟨i, u, hu, rfl⟩ := mem_elements.mp hc
    have hmem : u ∈ items := List.mem_of_getElem? hu
    refine ⟨.place i, ⟨?_, by simpa using hname, by simp⟩,
      Json.distinct_of_mem_items hdistinct hmem⟩
    exact Json.node?_append_eq_some.mpr ⟨_, hnode, hu⟩
  | _ => cases hc

/-! ### Entries reached by children -/

/-- One entry is reached from another by going to children, any number of times. -/
def Reaches : Entry → Entry → Prop := Relation.ReflTransGen fun e c => c ∈ e.children

theorem Reaches.refl (e : Entry) : e.Reaches e := Relation.ReflTransGen.refl

theorem Reaches.trans {e f g : Entry} (hf : e.Reaches f) (hg : f.Reaches g) : e.Reaches g :=
  Relation.ReflTransGen.trans hf hg

theorem reaches_of_mem_children {e c : Entry} (h : c ∈ e.children) : e.Reaches c :=
  Relation.ReflTransGen.single h

/-- What is reached from a whole document is at a path in it. -/
theorem Reaches.exists_isAt {v : Json} {e : Entry} (h : (root v).Reaches e)
    (hdistinct : v.Distinct) : ∃ p, e.IsAt v p := by
  suffices ∃ p, e.IsAt v p ∧ e.value.Distinct by
    obtain ⟨p, hp, -⟩ := this
    exact ⟨p, hp⟩
  induction h with
  | refl => exact ⟨[], isAt_root v, hdistinct⟩
  | tail _ hc ih =>
    obtain ⟨p, hp, hd⟩ := ih
    obtain ⟨s, hs⟩ := hp.exists_child hd hc
    exact ⟨p ++ [s], hs⟩

end Entry

end PathQuery
