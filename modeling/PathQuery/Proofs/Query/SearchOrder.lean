import PathQuery.Proofs.Query.DocumentOrder

/-! # The order in which searching finds

Searching does not always find in the order of the document
(`Collection.search_not_in_document_order`).  Where an array is stored under the key, all of
its elements come first and only then what is inside them; so an element comes before what is
inside the elements to its left (`Position.Skips`).  There is no other deviation, and there is
none at all exactly if in each such array nothing is found inside an element but the last
(`Collection.search_in_document_order_iff`).

The positions of what is found are listed beside searching, by the same recursion
(`Json.positions`).  A relation that goes by the order of children (`Position.Reading`) holds
throughout that list if it holds between the elements of each array that is stored under the key
and what is inside them (`Json.pairwise_positions_iff`). -/
namespace PathQuery

open Position

namespace Position

/-! ### Orders of positions -/

/-- One position is a later child of a node than another one passes through. -/
inductive Skips : Position → Position → Prop
  | head {i j : Nat} (h : j < i) (k : Nat) (q : Position) : Skips [i] (j :: k :: q)
  | tail (i : Nat) {p q : Position} (h : Skips p q) : Skips (i :: p) (i :: q)

/-- A relation that holds between a node and what is inside it, holds between what is in one
child and what is in a later one, and is the same inside a child. -/
structure Reading (R : Position → Position → Prop) : Prop where
  inside (i : Nat) (p : Position) : R [] (i :: p)
  next {i j : Nat} (h : i < j) (p q : Position) : R (i :: p) (j :: q)
  down (i : Nat) (p q : Position) : R (i :: p) (i :: q) ↔ R p q

theorem before_cons_iff {i j : Nat} {p q : Position} :
    Before (i :: p) (j :: q) ↔ i < j ∨ i = j ∧ Before p q := by
  constructor
  · intro h
    cases h with
    | rel h => exact .inl h
    | cons h => exact .inr ⟨rfl, h⟩
  · rintro (h | ⟨rfl, h⟩)
    · exact .rel h
    · exact .cons h

theorem skips_cons_iff {i : Nat} {p q : Position} : Skips (i :: p) (i :: q) ↔ Skips p q := by
  constructor
  · intro h
    cases h with
    | head h => exact absurd h (Nat.lt_irrefl i)
    | tail _ h => exact h
  · exact .tail i

theorem reading_before : Reading Before where
  inside _ _ := .nil
  next h _ _ := .rel h
  down i p q := by simp [before_cons_iff]

theorem reading_before_or_skips : Reading fun p q => Before p q ∨ Skips p q where
  inside i p := .inl (reading_before.inside i p)
  next h p q := .inl (reading_before.next h p q)
  down i p q := by rw [reading_before.down, skips_cons_iff]

/-- What is in a child stands in the relation to what is in later children. -/
theorem Reading.pairwise_append_iff {R : Position → Position → Prop} (hR : Reading R) {i : Nat}
    {ps qs : List Position} (hqs : ∀ q ∈ qs, ∃ j r, i < j ∧ q = j :: r) :
    (ps.map (i :: ·) ++ qs).Pairwise R ↔ ps.Pairwise R ∧ qs.Pairwise R := by
  rw [List.pairwise_append, List.pairwise_map]
  simp only [hR.down]
  refine and_congr_right fun _ => and_iff_left ?_
  intro a ha b hb
  obtain ⟨p, -, rfl⟩ := List.mem_map.mp ha
  obtain ⟨j, r, hj, rfl⟩ := hqs b hb
  exact hR.next hj p r

end Position

namespace Json

/-! ### Positions of what is found -/

/-- Where the entries of a member are, in its value: the elements of an array, or the whole. -/
def ownPositions : Json → List Position
  | array items => (List.range items.length).map ([·])
  | _ => [[]]

mutual

/-- Where searching finds what is stored under `key`, in the order in which it does. -/
def positions (key : String) : Json → List Position
  | object members => positionsMembers key 0 members
  | array items => positionsItems key 0 items
  | _ => []

/-- The same for members of an object, the first of which is child number `i`. -/
def positionsMembers (key : String) (i : Nat) : List (String × Json) → List Position
  | [] => []
  | (k, v) :: ms =>
    ((if k = key then ownPositions v else []) ++ positions key v).map (i :: ·) ++
      positionsMembers key (i + 1) ms

/-- The same for items of an array, the first of which is child number `i`. -/
def positionsItems (key : String) (i : Nat) : List Json → List Position
  | [] => []
  | v :: vs => (positions key v).map (i :: ·) ++ positionsItems key (i + 1) vs

end

/-- The entries wrap the nodes at the positions, one by one. -/
def Locates (v : Json) (ps : List Position) (es : List Entry) : Prop :=
  List.Forall₂ (fun p e => v.at? p = some e.value) ps es

theorem Locates.append {v : Json} {ps qs : List Position} {es fs : List Entry}
    (h : v.Locates ps es) (h' : v.Locates qs fs) : v.Locates (ps ++ qs) (es ++ fs) :=
  List.rel_append h h'

theorem Locates.of_child {v w : Json} {i : Nat} (hw : v.childValues[i]? = some w)
    {ps : List Position} {es : List Entry} (h : w.Locates ps es) :
    v.Locates (ps.map (i :: ·)) es := by
  rw [Locates, List.forall₂_map_left_iff]
  exact h.imp fun p e hp => by rw [at?, hw, Option.bind_some, hp]

theorem locates_ownPositions (key : String) (v : Json) :
    v.Locates v.ownPositions (Entry.ofMember key v) := by
  cases v with
  | array items =>
    rw [ownPositions, Locates, List.forall₂_map_left_iff, List.forall₂_iff_get]
    refine ⟨by simp [Entry.ofMember], fun i hi hi' => ?_⟩
    simp [at?, childValues, Entry.ofMember, Entry.elements]
  | _ => exact .cons rfl .nil

/-- What is left of the children after the first of them. -/
theorem child_of_drop {v w : Json} {ws : List Json} {i : Nat}
    (h : v.childValues.drop i = w :: ws) :
    v.childValues[i]? = some w ∧ v.childValues.drop (i + 1) = ws := by
  refine ⟨?_, ?_⟩
  · rw [← List.head?_drop, h, List.head?_cons]
  · rw [← List.tail_drop, h, List.tail_cons]

mutual

/-- What is found wraps the nodes at the positions. -/
theorem locates_positions (key : String) : ∀ v : Json, v.Locates (v.positions key) (v.search key)
  | object members => locates_positionsMembers key members rfl
  | array items => locates_positionsItems key items rfl
  | null | bool _ | number _ | string _ => .nil

theorem locates_positionsMembers (key : String) :
    ∀ (members : List (String × Json)) {v : Json} {i : Nat},
      v.childValues.drop i = members.map Prod.snd →
      v.Locates (positionsMembers key i members) (searchMembers key members)
  | [], _, _, _ => .nil
  | (k, w) :: ms, v, i, h => by
    obtain ⟨hw, hrest⟩ := child_of_drop h
    have hown : w.Locates (if k = key then ownPositions w else [])
        (if k = key then Entry.ofMember k w else []) := by
      split
      · exact locates_ownPositions k w
      · exact .nil
    rw [positionsMembers, searchMembers]
    exact (Locates.of_child hw (hown.append (locates_positions key w))).append
      (locates_positionsMembers key ms hrest)

theorem locates_positionsItems (key : String) : ∀ (items : List Json) {v : Json} {i : Nat},
    v.childValues.drop i = items → v.Locates (positionsItems key i items) (searchItems key items)
  | [], _, _, _ => .nil
  | w :: ws, v, i, h => by
    obtain ⟨hw, hrest⟩ := child_of_drop h
    rw [positionsItems, searchItems]
    exact (Locates.of_child hw (locates_positions key w)).append
      (locates_positionsItems key ws hrest)

end

/-- Nothing is found at any position exactly if nothing is found. -/
theorem positions_eq_nil_iff {key : String} {v : Json} :
    v.positions key = [] ↔ v.search key = [] := by
  rw [← List.length_eq_zero_iff, (locates_positions key v).length_eq, List.length_eq_zero_iff]

/-! ### Where what is found lies -/

theorem exists_of_mem_positionsMembers {key : String} {members : List (String × Json)} {i : Nat}
    {p : Position} (h : p ∈ positionsMembers key i members) : ∃ j q, i ≤ j ∧ p = j :: q := by
  induction members generalizing i with
  | nil => cases h
  | cons m ms ih =>
    rcases List.mem_append.mp h with h | h
    · obtain ⟨q, -, rfl⟩ := List.mem_map.mp h
      exact ⟨i, q, Nat.le_refl i, rfl⟩
    · obtain ⟨j, q, hj, rfl⟩ := ih h
      exact ⟨j, q, by omega, rfl⟩

theorem mem_positionsItems {key : String} {items : List Json} {i : Nat} {p : Position} :
    p ∈ positionsItems key i items ↔
      ∃ j v q, items[j]? = some v ∧ q ∈ v.positions key ∧ p = (i + j) :: q := by
  induction items generalizing i with
  | nil => simp [positionsItems]
  | cons v vs ih =>
    rw [positionsItems, List.mem_append, List.mem_map, ih]
    constructor
    · rintro (⟨q, hq, rfl⟩ | ⟨j, w, q, hw, hq, rfl⟩)
      · exact ⟨0, v, q, rfl, hq, rfl⟩
      · exact ⟨j + 1, w, q, hw, hq, by congr 1; omega⟩
    · rintro ⟨_ | j, w, q, hw, hq, rfl⟩
      · obtain rfl : v = w := by simpa using hw
        exact .inl ⟨q, hq, rfl⟩
      · exact .inr ⟨j, w, q, by simpa using hw, hq, by congr 1; omega⟩

/-- Nothing is found at the value itself. -/
theorem exists_of_mem_positions {key : String} {v : Json} {p : Position}
    (h : p ∈ v.positions key) : ∃ j q, p = j :: q := by
  cases v with
  | object members =>
    obtain ⟨j, q, -, rfl⟩ := exists_of_mem_positionsMembers h
    exact ⟨j, q, rfl⟩
  | array items =>
    obtain ⟨j, w, q, -, -, rfl⟩ := mem_positionsItems.mp h
    exact ⟨_, q, rfl⟩
  | _ => cases h

/-! ### Arrays under the key -/

/-- Somewhere in the value an array is stored under `key`. -/
def Stores (key : String) (items : List Json) (v : Json) : Prop :=
  ∃ p members, v.at? p = some (object members) ∧ (key, array items) ∈ members

theorem stores_iff {key : String} {items : List Json} {v : Json} :
    v.Stores key items ↔
      (∃ members, v = object members ∧ (key, array items) ∈ members) ∨
        ∃ w ∈ v.childValues, w.Stores key items := by
  constructor
  · rintro ⟨_ | ⟨i, p⟩, members, hat, hm⟩
    · exact .inl ⟨members, Option.some.inj hat, hm⟩
    · obtain ⟨w, hw, hat⟩ := Option.bind_eq_some_iff.mp hat
      exact .inr ⟨w, List.mem_of_getElem? hw, p, members, hat, hm⟩
  · rintro (⟨members, rfl, hm⟩ | ⟨w, hw, p, members, hat, hm⟩)
    · exact ⟨[], members, rfl, hm⟩
    · obtain ⟨i, hi⟩ := List.mem_iff_getElem?.mp hw
      exact ⟨i :: p, members, by rw [at?, hi, Option.bind_some, hat], hm⟩

theorem stores_object_iff {key : String} {items : List Json} {members : List (String × Json)} :
    (object members).Stores key items ↔
      ∃ m ∈ members, m = (key, array items) ∨ m.2.Stores key items := by
  rw [stores_iff]
  constructor
  · rintro (⟨_, he, hm⟩ | ⟨w, hw, hs⟩)
    · cases he
      exact ⟨_, hm, .inl rfl⟩
    · obtain ⟨m, hm, rfl⟩ := List.mem_map.mp hw
      exact ⟨m, hm, .inr hs⟩
  · rintro ⟨m, hm, rfl | hs⟩
    · exact .inl ⟨members, rfl, hm⟩
    · exact .inr ⟨m.2, List.mem_map_of_mem hm, hs⟩

theorem stores_array_iff {key : String} {items vs : List Json} :
    (array vs).Stores key items ↔ ∃ v ∈ vs, v.Stores key items := by
  rw [stores_iff]
  exact or_iff_right fun ⟨_, he, _⟩ => nomatch he

/-- Each element of the array stands in the relation to all that is found inside elements. -/
def Sorts (R : Position → Position → Prop) (key : String) (items : List Json) : Prop :=
  ∀ i < items.length, ∀ p ∈ positionsItems key 0 items, R [i] p

variable {R : Position → Position → Prop}

theorem pairwise_ownPositions_append_iff (hR : Reading R) (key : String) (v : Json) :
    (v.ownPositions ++ v.positions key).Pairwise R ↔
      (∀ items, v = array items → Sorts R key items) ∧ (v.positions key).Pairwise R := by
  by_cases hv : ∃ items, v = array items
  · obtain ⟨items, rfl⟩ := hv
    have hown : (ownPositions (array items)).Pairwise R := by
      rw [ownPositions, List.pairwise_map]
      exact List.pairwise_lt_range.imp fun h => hR.next h [] []
    rw [List.pairwise_append, and_iff_right hown, and_comm]
    simp [ownPositions, Sorts, positions]
  · have hown : v.ownPositions = [[]] := by
      cases v with
      | array items => exact absurd ⟨items, rfl⟩ hv
      | _ => rfl
    have hinside : ∀ p ∈ v.positions key, R [] p := by
      intro p hp
      obtain ⟨j, q, rfl⟩ := exists_of_mem_positions hp
      exact hR.inside j q
    have hnone : ∀ items, v = array items → Sorts R key items :=
      fun items he => absurd ⟨items, he⟩ hv
    rw [hown, List.singleton_append, List.pairwise_cons, and_iff_right hinside,
      and_iff_right hnone]

mutual

/-- What is found stands in the relation throughout, exactly if it does at each array that is
stored under the key. -/
theorem pairwise_positions_iff (hR : Reading R) (key : String) : ∀ v : Json,
    (v.positions key).Pairwise R ↔ ∀ items, v.Stores key items → Sorts R key items
  | object members => by
    rw [positions, pairwise_positionsMembers_iff hR]
    simp only [stores_object_iff]
    grind
  | array items => by
    rw [positions, pairwise_positionsItems_iff hR]
    simp only [stores_array_iff]
    grind
  | null | bool _ | number _ | string _ => by
    refine iff_of_true .nil fun items h => ?_
    rcases stores_iff.mp h with ⟨_, he, _⟩ | ⟨_, hw, _⟩
    · cases he
    · cases hw

theorem pairwise_positionsMembers_iff (hR : Reading R) (key : String) :
    ∀ (members : List (String × Json)) (i : Nat), (positionsMembers key i members).Pairwise R ↔
      ∀ m ∈ members, ∀ items, m = (key, array items) ∨ m.2.Stores key items → Sorts R key items
  | [], _ => by simp [positionsMembers]
  | (k, v) :: ms, i => by
    have hlater : ∀ q ∈ positionsMembers key (i + 1) ms, ∃ j r, i < j ∧ q = j :: r :=
      fun q hq => exists_of_mem_positionsMembers hq
    have hhere : ((if k = key then ownPositions v else []) ++ positions key v).Pairwise R ↔
        ∀ items, (k, v) = (key, array items) ∨ v.Stores key items → Sorts R key items := by
      split
      · rename_i hk
        obtain rfl := hk.symm
        rw [pairwise_ownPositions_append_iff hR, pairwise_positions_iff hR key v]
        grind
      · rename_i hk
        rw [List.nil_append, pairwise_positions_iff hR key v]
        grind
    rw [positionsMembers, hR.pairwise_append_iff hlater, hhere,
      pairwise_positionsMembers_iff hR key ms (i + 1), List.forall_mem_cons]

theorem pairwise_positionsItems_iff (hR : Reading R) (key : String) :
    ∀ (vs : List Json) (i : Nat), (positionsItems key i vs).Pairwise R ↔
      ∀ v ∈ vs, ∀ items, v.Stores key items → Sorts R key items
  | [], _ => by simp [positionsItems]
  | v :: vs, i => by
    have hlater : ∀ q ∈ positionsItems key (i + 1) vs, ∃ j r, i < j ∧ q = j :: r := by
      intro q hq
      obtain ⟨j, _, r, -, -, rfl⟩ := mem_positionsItems.mp hq
      exact ⟨i + 1 + j, r, by omega, rfl⟩
    rw [positionsItems, hR.pairwise_append_iff hlater, pairwise_positions_iff hR key v,
      pairwise_positionsItems_iff hR key vs (i + 1), List.forall_mem_cons]

end

/-! ### The order of the document -/

/-- An element comes before what is inside the same element or a later one; and only the last
one has nothing to come before. -/
theorem sorts_before_iff {key : String} {items : List Json} :
    Sorts Before key items ↔ ∀ v ∈ items.dropLast, v.search key = [] := by
  constructor
  · intro h v hv
    obtain ⟨j, hj⟩ := List.mem_iff_getElem?.mp hv
    obtain ⟨hlt, hj⟩ := List.getElem?_eq_some_iff.mp hj
    rw [List.length_dropLast] at hlt
    rw [List.getElem_dropLast] at hj
    rw [← positions_eq_nil_iff, List.eq_nil_iff_forall_not_mem]
    intro q hq
    -- the last element would have to come before what is found here, to its left
    have hmem : (0 + j) :: q ∈ positionsItems key 0 items :=
      mem_positionsItems.mpr ⟨j, v, q, List.getElem?_eq_some_iff.mpr ⟨by omega, hj⟩, hq, rfl⟩
    have hbefore := h (items.length - 1) (by omega) _ hmem
    rw [before_cons_iff] at hbefore
    omega
  · intro h i hi p hp
    obtain ⟨j, v, q, hj, hq, rfl⟩ := mem_positionsItems.mp hp
    obtain ⟨k, r, rfl⟩ := exists_of_mem_positions hq
    obtain ⟨hlt, hj⟩ := List.getElem?_eq_some_iff.mp hj
    have hlast : j = items.length - 1 := by
      by_contra hne
      have hmem : v ∈ items.dropLast := by
        refine List.mem_iff_getElem.mpr ⟨j, by rw [List.length_dropLast]; omega, ?_⟩
        rw [List.getElem_dropLast, hj]
      rw [positions_eq_nil_iff.mpr (h v hmem)] at hq
      cases hq
    rw [before_cons_iff, Nat.zero_add]
    by_cases hij : i < j
    · exact .inl hij
    · exact .inr ⟨by omega, .nil⟩

theorem sorts_before_or_skips (key : String) (items : List Json) :
    Sorts (fun p q => Before p q ∨ Skips p q) key items := by
  intro i _ p hp
  obtain ⟨j, v, q, -, hq, rfl⟩ := mem_positionsItems.mp hp
  obtain ⟨k, r, rfl⟩ := exists_of_mem_positions hq
  rw [Nat.zero_add]
  rcases Nat.lt_trichotomy i j with h | rfl | h
  · exact .inl (.rel h)
  · exact .inl (.cons .nil)
  · exact .inr (.head h k r)

end Json

namespace Collection

theorem entries_search_root (v : Json) (key : String) :
    ((root v).search key).entries = v.search key :=
  List.flatMap_singleton ..

/-- What is found in a document is in its order, but for elements of arrays that are stored under
the key, which come before what is inside elements to their left.  It is in order altogether
exactly if in each such array nothing is found inside an element but the last. -/
theorem search_in_document_order_iff (doc : Document) (key : String) :
    List.Forall₂ (fun p e => doc.value.at? p = some e.value) (doc.value.positions key)
        (doc.root.search key).entries ∧
      (doc.value.positions key).Pairwise (fun p q => Before p q ∨ Skips p q) ∧
      ((doc.value.positions key).Pairwise Before ↔
        ∀ items, doc.value.Stores key items → ∀ v ∈ items.dropLast, v.search key = []) := by
  refine ⟨?_, ?_, ?_⟩
  · rw [Document.root, entries_search_root]
    exact Json.locates_positions key doc.value
  · rw [Json.pairwise_positions_iff reading_before_or_skips]
    exact fun items _ => Json.sorts_before_or_skips key items
  · rw [Json.pairwise_positions_iff reading_before]
    simp only [Json.sorts_before_iff]

/-- A key that comes again inside the first element of an array under it: the second element is
found before the member inside the first, although it comes after it in the document. -/
theorem search_not_in_document_order :
    let doc : Document := .ofJson (.object [("a", .array [.object [("a", .ofInt 1)], .ofInt 2])])
    ¬ ∃ ps : List Position,
        List.Forall₂ (fun p e => doc.value.at? p = some e.value) ps (doc.root.search "a").entries ∧
          ps.Pairwise Before := by
  intro doc
  have hentries : (doc.root.search "a").entries =
      [⟨.key "a", some 0, .object [("a", .ofInt 1)]⟩, ⟨.key "a", some 1, .ofInt 2⟩,
        ⟨.key "a", none, .ofInt 1⟩] := rfl
  have hvalue : doc.value = .object [("a", .array [.object [("a", .ofInt 1)], .ofInt 2])] := rfl
  rintro ⟨ps, hat, hbefore⟩
  rw [hentries, hvalue] at hat
  obtain ⟨p, qs, -, hqs, rfl⟩ := List.forall₂_cons_right_iff.mp hat
  obtain ⟨q, rs, hq, hrs, rfl⟩ := List.forall₂_cons_right_iff.mp hqs
  obtain ⟨r, _, hr, -, rfl⟩ := List.forall₂_cons_right_iff.mp hrs
  -- each of the two numbers is in the document once
  have hq : q = [0, 1] := by
    rcases q with _ | ⟨_ | i, _ | ⟨_ | _ | j, _ | ⟨_ | k, _ | ⟨l, q⟩⟩⟩⟩ <;>
      simp [Json.at?, Json.childValues, Json.ofInt] at hq ⊢
  have hr : r = [0, 0, 0] := by
    rcases r with _ | ⟨_ | i, _ | ⟨_ | _ | j, _ | ⟨_ | k, _ | ⟨l, r⟩⟩⟩⟩ <;>
      simp [Json.at?, Json.childValues, Json.ofInt] at hr ⊢
  subst hq hr
  simp [before_cons_iff] at hbefore

end Collection

end PathQuery
