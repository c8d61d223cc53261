import PathQuery.Proofs.Document.Reordering

/-! # Equality up to the order of members is an equivalence

`same` looks up each member of the left side on the right, and compares how many there are.
Looking up composes, so the relation is transitive for any values (`Json.same_trans`).  To turn
it round takes that no key comes twice on either side: then as many members as there are have
been found, and none on the right is left over (`Json.same_symm`).  No document has a key twice,
so on documents it is an equivalence. -/
namespace PathQuery

namespace Number

variable {a b c : Number}

theorem same_symm (h : a.same b = true) : b.same a = true := by
  cases a <;> cases b <;> simp_all [same]

theorem same_trans (hab : a.same b = true) (hbc : b.same c = true) : a.same c = true := by
  cases a <;> cases b <;> cases c <;> simp_all [same]

end Number

namespace Json

/-- Each member on the left has one of the same key and value on the right. -/
theorem sameMembers_iff {ms ns : List (String × Json)} :
    sameMembers ms ns = true ↔
      ∀ k v, (k, v) ∈ ms → ∃ w, ns.lookup k = some w ∧ v.same w = true := by
  induction ms with
  | nil => simp [sameMembers]
  | cons m ms ih =>
    obtain ⟨k, v⟩ := m
    rw [sameMembers, Bool.and_eq_true, ih]
    constructor
    · rintro ⟨hhead, htail⟩ l u hm
      rcases List.mem_cons.mp hm with heq | hm
      · cases heq
        cases hlook : ns.lookup k with
        | none => simp [hlook] at hhead
        | some w => exact ⟨w, rfl, by simpa [hlook] using hhead⟩
      · exact htail l u hm
    · intro h
      obtain ⟨w, hlook, hsame⟩ := h k v List.mem_cons_self
      exact ⟨by simpa [hlook] using hsame, fun l u hm => h l u (List.mem_cons_of_mem _ hm)⟩

/-! ### Transitivity -/

mutual

theorem same_trans : ∀ (v : Json) {w u : Json}, v.same w = true → w.same u = true →
    v.same u = true
  | null, w, u, h, h' | bool _, w, u, h, h' | string _, w, u, h, h' => by
    cases w <;> cases u <;> simp_all [same]
  | number a, w, u, h, h' => by
    cases w with
    | number b =>
      cases u with
      | number c => exact Number.same_trans h h'
      | _ => cases h'
    | _ => cases h
  | array xs, w, u, h, h' => by
    cases w with
    | array ys =>
      cases u with
      | array zs => exact sameItems_trans xs h h'
      | _ => cases h'
    | _ => cases h
  | object ms, w, u, h, h' => by
    cases w with
    | object ns =>
      cases u with
      | object ls =>
        rw [same, Bool.and_eq_true, beq_iff_eq] at h h' ⊢
        exact ⟨h.1.trans h'.1, sameMembers_trans ms h.2 h'.2⟩
      | _ => cases h'
    | _ => cases h

theorem sameItems_trans : ∀ (xs : List Json) {ys zs : List Json}, sameItems xs ys = true →
    sameItems ys zs = true → sameItems xs zs = true
  | [], ys, zs, h, h' => by
    cases ys with
    | nil => exact h'
    | cons => cases h
  | x :: xs, ys, zs, h, h' => by
    cases ys with
    | nil => cases h
    | cons y ys =>
      cases zs with
      | nil => cases h'
      | cons z zs =>
        rw [sameItems, Bool.and_eq_true] at h h' ⊢
        exact ⟨same_trans x h.1 h'.1, sameItems_trans xs h.2 h'.2⟩

theorem sameMembers_trans : ∀ (ms : List (String × Json)) {ns ls : List (String × Json)},
    sameMembers ms ns = true → sameMembers ns ls = true → sameMembers ms ls = true
  | [], _, _, _, _ => rfl
  | (k, v) :: ms, ns, ls, h, h' => by
    obtain ⟨w, hw, hvw⟩ := sameMembers_iff.mp h k v List.mem_cons_self
    obtain ⟨u, hu, hwu⟩ := sameMembers_iff.mp h' k w (Members.mem_of_lookup hw)
    rw [sameMembers, Bool.and_eq_true] at h ⊢
    simp only [hu]
    exact ⟨same_trans v hvw hwu, sameMembers_trans ms h.2 h'⟩

end

/-! ### Symmetry -/

mutual

theorem same_symm : ∀ (v : Json) {w : Json}, v.Alike w → w.same v = true
  | null, w, h | bool _, w, h | string _, w, h => by
    have hsame := h.same
    cases w <;> simp_all [same]
  | number a, w, h => by
    have hsame := h.same
    cases w with
    | number b => exact Number.same_symm hsame
    | _ => cases hsame
  | array xs, w, h => by
    obtain ⟨ys, rfl, hrel⟩ := h.exists_items
    exact sameItems_symm xs hrel
  | object ms, w, h => by
    obtain ⟨ns, rfl, ls, hrel, hperm⟩ := h.exists_members
    rw [same, Bool.and_eq_true, beq_iff_eq]
    refine ⟨hperm.length_eq.symm.trans hrel.length_eq.symm, sameMembers_iff.mpr fun k w hm => ?_⟩
    -- a member on the right was found for one on the left, which is the only one of its key
    obtain ⟨v, hv, hsame⟩ := exists_same_of_mem ms hrel (hperm.mem_iff.mpr hm)
    exact ⟨v, Members.lookup_of_mem h.left.1 hv, hsame⟩

theorem sameItems_symm : ∀ (xs : List Json) {ys : List Json}, List.Forall₂ Alike xs ys →
    sameItems ys xs = true
  | [], _, .nil => rfl
  | x :: xs, _, .cons h hs => by
    rw [sameItems, Bool.and_eq_true]
    exact ⟨same_symm x h, sameItems_symm xs hs⟩

theorem exists_same_of_mem : ∀ (ms : List (String × Json)) {ls : List (String × Json)}
    {k : String} {w : Json}, List.Forall₂ MemberAlike ms ls → (k, w) ∈ ls →
      ∃ v, (k, v) ∈ ms ∧ w.same v = true
  | [], _, _, _, .nil, hm => nomatch hm
  | (l, v) :: ms, (l', u) :: ls, k, w, .cons ⟨hk, hvu⟩ hs, hm => by
    dsimp only at hk hvu
    subst hk
    rcases List.mem_cons.mp hm with heq | hm
    · cases heq
      exact ⟨v, List.mem_cons_self, same_symm v hvu⟩
    · obtain ⟨v', hv', hsame⟩ := exists_same_of_mem ms hs hm
      exact ⟨v', List.mem_cons_of_mem _ hv', hsame⟩

end

end Json

namespace Document

theorem same_symm {d e : Document} (h : d.same e = true) : e.same d = true :=
  Json.same_symm d.value ⟨d.distinct, e.distinct, h⟩

theorem same_trans {d e f : Document} (h : d.same e = true) (h' : e.same f = true) :
    d.same f = true :=
  Json.same_trans d.value h h'

end Document

end PathQuery
