import Mathlib.Data.List.Forall2
import Mathlib.Data.List.Nodup
import Mathlib.Data.List.Perm.Subperm
import PathQuery.Proofs.Document.Equality
import PathQuery.Proofs.Document.Path

/-! # Values with their members in another order

Two values are alike if they are the same but for the order of members, and neither has a key
twice (`Json.Alike`).  What an array holds is then alike item by item; what an object holds is
alike only once the members of the other are put in another order (`UpToOrder`), but under
each key there is the same on both sides, or nothing (`Json.Alike.member?`).  The same holds
of what is right inside two entries. -/
namespace PathQuery

/-! ### Lists up to order -/

section UpToOrder

variable {α β γ δ : Type} {R : α → β → Prop} {S : γ → δ → Prop}

/-- Two lists are related item by item, once the second is put in a suitable order. -/
def UpToOrder (R : α → β → Prop) (xs : List α) (ys : List β) : Prop :=
  ∃ zs, List.Forall₂ R xs zs ∧ zs.Perm ys

namespace UpToOrder

theorem of_forall₂ {xs : List α} {ys : List β} (h : List.Forall₂ R xs ys) : UpToOrder R xs ys :=
  ⟨ys, h, .refl ys⟩

theorem imp {R' : α → β → Prop} (himp : ∀ x y, R x y → R' x y) {xs : List α} {ys : List β}
    (h : UpToOrder R xs ys) : UpToOrder R' xs ys := by
  obtain ⟨zs, hrel, hperm⟩ := h
  exact ⟨zs, hrel.imp himp, hperm⟩

theorem trans_perm {xs : List α} {ys zs : List β} (h : UpToOrder R xs ys) (hperm : ys.Perm zs) :
    UpToOrder R xs zs := by
  obtain ⟨us, hrel, hus⟩ := h
  exact ⟨us, hrel, hus.trans hperm⟩

theorem length_eq {xs : List α} {ys : List β} (h : UpToOrder R xs ys) :
    xs.length = ys.length := by
  obtain ⟨zs, hrel, hperm⟩ := h
  exact hrel.length_eq.trans hperm.length_eq

theorem append {xs xs' : List α} {ys ys' : List β} (h : UpToOrder R xs ys)
    (h' : UpToOrder R xs' ys') : UpToOrder R (xs ++ xs') (ys ++ ys') := by
  obtain ⟨zs, hrel, hperm⟩ := h
  obtain ⟨zs', hrel', hperm'⟩ := h'
  exact ⟨zs ++ zs', List.rel_append hrel hrel', hperm.append hperm'⟩

/-- What each item leads to may come in any order, too. -/
theorem flatMap {xs : List α} {ys : List β} (h : UpToOrder R xs ys) {f : α → List γ}
    {g : β → List δ} (hfg : ∀ x y, R x y → UpToOrder S (f x) (g y)) :
    UpToOrder S (xs.flatMap f) (ys.flatMap g) := by
  obtain ⟨zs, hrel, hperm⟩ := h
  refine trans_perm ?_ (hperm.flatMap_right g)
  clear hperm
  induction hrel with
  | nil => exact of_forall₂ .nil
  | cons hxy _ ih =>
    rw [List.flatMap_cons, List.flatMap_cons]
    exact (hfg _ _ hxy).append ih

theorem filter {xs : List α} {ys : List β} (h : UpToOrder R xs ys) {p : α → Bool} {q : β → Bool}
    (hpq : ∀ x y, R x y → p x = q y) : UpToOrder R (xs.filter p) (ys.filter q) := by
  obtain ⟨zs, hrel, hperm⟩ := h
  refine ⟨zs.filter q, List.rel_filter ?_ hrel, hperm.filter q⟩
  intro x y hxy
  exact Bool.eq_iff_iff.mp (hpq x y hxy)

end UpToOrder

end UpToOrder

/-- Where no key comes twice, the order of members does not matter for what is found. -/
theorem Members.lookup_eq_of_perm {α : Type} {ms ns : List (String × α)}
    (hnodup : (ms.map Prod.fst).Nodup) (hperm : ms.Perm ns) (key : String) :
    ms.lookup key = ns.lookup key := by
  have hmem {ls : List (String × α)} (hls : (ls.map Prod.fst).Nodup) (v : α) :
      ls.lookup key = some v ↔ (key, v) ∈ ls :=
    ⟨mem_of_lookup, lookup_of_mem hls⟩
  apply Option.ext
  intro v
  rw [hmem hnodup, hmem ((hperm.map Prod.fst).nodup_iff.mp hnodup), hperm.mem_iff]

namespace Json

/-! ### Values that are alike -/

/-- Two values are the same up to the order of members, and neither has a key twice. -/
structure Alike (v w : Json) : Prop where
  left : v.Distinct
  right : w.Distinct
  same : v.same w = true

/-- Two members have the same key and values that are alike. -/
def MemberAlike (m n : String × Json) : Prop := m.1 = n.1 ∧ m.2.Alike n.2

theorem Alike.kind_eq {v w : Json} (h : v.Alike w) : v.kind = w.kind := by
  have hsame := h.same
  cases v <;> cases w <;> first | rfl | simp [Json.same] at hsame

theorem forall₂_alike_items {xs ys : List Json} (hxs : DistinctItems xs) (hys : DistinctItems ys)
    (h : sameItems xs ys = true) : List.Forall₂ Alike xs ys := by
  induction xs generalizing ys with
  | nil =>
    cases ys with
    | nil => exact .nil
    | cons => cases h
  | cons x xs ih =>
    cases ys with
    | nil => cases h
    | cons y ys =>
      rw [sameItems, Bool.and_eq_true] at h
      exact .cons ⟨hxs.1, hys.1, h.1⟩ (ih hxs.2 hys.2 h.2)

/-- Like an array is an array of items that are alike one by one. -/
theorem Alike.exists_items {xs : List Json} {w : Json} (h : (array xs).Alike w) :
    ∃ ys, w = array ys ∧ List.Forall₂ Alike xs ys := by
  cases w with
  | array ys => exact ⟨ys, rfl, forall₂_alike_items h.left h.right h.same⟩
  | _ => cases h.same

/-- The members found on the other side, one for each, if these can be all that are there. -/
theorem exists_forall₂_members {ms ns : List (String × Json)} (hms : DistinctMembers ms)
    (hns : DistinctMembers ns) (h : sameMembers ms ns = true) :
    ∃ ls, List.Forall₂ MemberAlike ms ls ∧ ls ⊆ ns := by
  induction ms with
  | nil => exact ⟨[], .nil, List.nil_subset ns⟩
  | cons m ms ih =>
    obtain ⟨k, v⟩ := m
    rw [sameMembers, Bool.and_eq_true] at h
    obtain ⟨ls, hrel, hsub⟩ := ih hms.2 h.2
    cases hlook : ns.lookup k with
    | none => simp [hlook] at h
    | some w =>
      have hsame : v.same w = true := by simpa [hlook] using h.1
      have hmem : (k, w) ∈ ns := Members.mem_of_lookup hlook
      have hw : w.Distinct := distinct_of_mem_members hns hmem
      exact ⟨(k, w) :: ls, .cons ⟨rfl, hms.1, hw, hsame⟩ hrel, List.cons_subset.mpr ⟨hmem, hsub⟩⟩

theorem map_fst_of_forall₂ {ms ns : List (String × Json)} (h : List.Forall₂ MemberAlike ms ns) :
    ms.map Prod.fst = ns.map Prod.fst := by
  induction h with
  | nil => rfl
  | cons hmn _ ih => rw [List.map_cons, List.map_cons, hmn.1, ih]

/-- Like an object is an object whose members are alike in some order. -/
theorem Alike.exists_members {ms : List (String × Json)} {w : Json} (h : (object ms).Alike w) :
    ∃ ns, w = object ns ∧ UpToOrder MemberAlike ms ns := by
  cases w with
  | object ns =>
    refine ⟨ns, rfl, ?_⟩
    have hsame := h.same
    rw [Json.same, Bool.and_eq_true, beq_iff_eq] at hsame
    obtain ⟨ls, hrel, hsub⟩ := exists_forall₂_members h.left.2 h.right.2 hsame.2
    -- no key comes twice on the left, so as many members as there are have been found
    have hnodup : ls.Nodup := by
      refine List.Nodup.of_map Prod.fst ?_
      rw [← map_fst_of_forall₂ hrel]
      exact h.left.1
    have hlength : ns.length ≤ ls.length := Nat.le_of_eq (hsame.1.symm.trans hrel.length_eq)
    exact ⟨ls, hrel, (List.subperm_of_subset hnodup hsub).perm_of_length_le hlength⟩
  | _ => cases h.same

theorem rel_lookup {ms ns : List (String × Json)} (h : List.Forall₂ MemberAlike ms ns)
    (key : String) : Option.Rel Alike (ms.lookup key) (ns.lookup key) := by
  induction h with
  | nil => exact .none
  | @cons m n ms ns hmn _ ih =>
    obtain ⟨k, v⟩ := m
    obtain ⟨l, w⟩ := n
    obtain ⟨hk, hvw⟩ := hmn
    dsimp only at hk hvw
    subst hk
    rw [List.lookup_cons, List.lookup_cons]
    split
    · exact .some hvw
    · exact ih

/-- Under each key there is the same on both sides, or nothing. -/
theorem Alike.member? {v w : Json} (h : v.Alike w) (key : String) :
    Option.Rel Alike (v.member? key) (w.member? key) := by
  cases v with
  | object ms =>
    obtain ⟨ns, rfl, ls, hrel, hperm⟩ := h.exists_members
    have hnodup : (ls.map Prod.fst).Nodup := map_fst_of_forall₂ hrel ▸ h.left.1
    have hlookup : ns.lookup key = ls.lookup key :=
      (Members.lookup_eq_of_perm hnodup hperm key).symm
    rw [Json.member?, Json.member?, hlookup]
    exact rel_lookup hrel key
  | array xs =>
    obtain ⟨ys, rfl, -⟩ := h.exists_items
    exact .none
  | _ =>
    have hkind := h.kind_eq
    cases w <;> first | exact .none | cases hkind

end Json

namespace Entry

/-! ### Entries that are alike -/

/-- Two entries are called the same and wrap values that are alike. -/
structure Alike (e f : Entry) : Prop where
  name : e.name = f.name
  index : e.index = f.index
  value : e.value.Alike f.value

theorem Alike.same {e f : Entry} (h : e.Alike f) : e.same f = true := by
  simp [Entry.same, h.name, h.index, h.value.same]

theorem forall₂_alike_elements (name : Name) {xs ys : List Json}
    (h : List.Forall₂ Json.Alike xs ys) :
    List.Forall₂ Alike (elements name xs) (elements name ys) := by
  rw [List.forall₂_iff_get] at h ⊢
  obtain ⟨hlength, hget⟩ := h
  refine ⟨by simpa using hlength, fun i hi hi' => ?_⟩
  rw [length_elements] at hi hi'
  simp only [elements, List.get_eq_getElem, List.getElem_mapIdx]
  exact ⟨rfl, rfl, hget i hi hi'⟩

/-- The members of an object may come in another order; the elements of an array may not. -/
theorem Alike.children {e f : Entry} (h : e.Alike f) : UpToOrder Alike e.children f.children := by
  obtain ⟨name, index, v⟩ := e
  obtain ⟨_, _, w⟩ := f
  obtain ⟨rfl, rfl, h⟩ := h
  dsimp only at h
  cases v with
  | object ms =>
    obtain ⟨ns, rfl, ls, hrel, hperm⟩ := h.exists_members
    refine ⟨ls.map fun m => ⟨.key m.1, none, m.2⟩, ?_, hperm.map _⟩
    rw [Entry.children, List.forall₂_map_left_iff, List.forall₂_map_right_iff]
    exact hrel.imp fun m n hmn => ⟨by rw [hmn.1], rfl, hmn.2⟩
  | array xs =>
    obtain ⟨ys, rfl, hrel⟩ := h.exists_items
    exact .of_forall₂ (forall₂_alike_elements name hrel)
  | _ =>
    have hkind := h.kind_eq
    cases w <;> first | exact .of_forall₂ .nil | cases hkind

end Entry

end PathQuery
