import PathQuery.Proofs.Predicate.Agreement
import PathQuery.Proofs.Query.EntryByEntry
import PathQuery.Proofs.Query.PredicateText
import PathQuery.Proofs.Query.Provenance

/-! # Queries and the order of members

What a query finds does not depend on the order in which an object has its members
(`eval_of_same`).  From entries that are alike one by one, descending, filtering and picking
lead to entries that are alike one by one, or to the same error.  Spreading and searching go
through all members of an object, and so lead to entries that are alike up to their order;
this is kept by every step but picking, which would pick another entry.

Both are instances of one statement about runs: what every step keeps, a run keeps
(`agree_run`). -/
namespace PathQuery

open Entry (Alike)

namespace Entry

theorem forall₂_alike_ofMember (key : String) {v w : Json} (h : v.Alike w) :
    List.Forall₂ Alike (ofMember key v) (ofMember key w) := by
  by_cases hv : v.kind = .array
  · cases v with
    | array xs =>
      obtain ⟨ys, rfl, hrel⟩ := h.exists_items
      exact forall₂_alike_elements _ hrel
    | _ => cases hv
  · rw [ofMember_of_ne key hv, ofMember_of_ne key (h.kind_eq ▸ hv)]
    exact .cons ⟨rfl, rfl, h⟩ .nil

/-- The arrays among the members are opened in their order, wherever they stand. -/
theorem Alike.spread {e f : Entry} (h : e.Alike f) : UpToOrder Alike e.spread f.spread := by
  have hkind : e.kind = f.kind := h.value.kind_eq
  rw [Entry.spread, Entry.spread, hkind]
  split
  · refine h.children.flatMap fun c d hcd => ?_
    have hkind' : c.kind = d.kind := hcd.value.kind_eq
    rw [hkind']
    split
    · exact hcd.children
    · exact .of_forall₂ (.cons hcd .nil)
  · exact h.children

end Entry

namespace Json

/-! ### Descending -/

mutual

theorem forall₂_alike_descend (key : String) : ∀ (v : Json) {w : Json}, v.Alike w →
    List.Forall₂ Entry.Alike (v.descend key) (w.descend key)
  | object ms, w, h => by
    have hmember := h.member? key
    obtain ⟨ns, rfl, -⟩ := h.exists_members
    simp only [Json.member?] at hmember
    rw [descend, descend]
    cases hv : ms.lookup key <;> cases hw : ns.lookup key <;> rw [hv, hw] at hmember
    · exact .nil
    · cases hmember
    · cases hmember
    · cases hmember with
      | some h => exact Entry.forall₂_alike_ofMember key h
  | array xs, w, h => by
    obtain ⟨ys, rfl, hrel⟩ := h.exists_items
    exact forall₂_alike_descendItems key xs hrel
  | null, w, h | bool _, w, h | number _, w, h | string _, w, h => by
    have hkind := h.kind_eq
    cases w <;> first | exact .nil | cases hkind

theorem forall₂_alike_descendItems (key : String) : ∀ (xs : List Json) {ys : List Json},
    List.Forall₂ Json.Alike xs ys →
    List.Forall₂ Entry.Alike (descendItems key xs) (descendItems key ys)
  | [], _, .nil => .nil
  | x :: xs, _, .cons h hs => by
    rw [descendItems, descendItems]
    exact List.rel_append (forall₂_alike_descend key x h) (forall₂_alike_descendItems key xs hs)

end

/-! ### Searching -/

theorem searchMembers_eq (key : String) (members : List (String × Json)) :
    searchMembers key members = members.flatMap fun m =>
      (if m.1 = key then Entry.ofMember m.1 m.2 else []) ++ search key m.2 := by
  induction members with
  | nil => rfl
  | cons m ms ih => rw [searchMembers, ih, List.flatMap_cons]

mutual

theorem upToOrder_alike_search (key : String) : ∀ (v : Json) {w : Json}, v.Alike w →
    UpToOrder Entry.Alike (v.search key) (w.search key)
  | object ms, w, h => by
    obtain ⟨ns, rfl, ls, hrel, hperm⟩ := h.exists_members
    rw [search, search, searchMembers_eq key ns]
    refine UpToOrder.trans_perm ?_ (hperm.flatMap_right _)
    rw [← searchMembers_eq]
    exact upToOrder_alike_searchMembers key ms hrel
  | array xs, w, h => by
    obtain ⟨ys, rfl, hrel⟩ := h.exists_items
    exact upToOrder_alike_searchItems key xs hrel
  | null, w, h | bool _, w, h | number _, w, h | string _, w, h => by
    have hkind := h.kind_eq
    cases w <;> first | exact .of_forall₂ .nil | cases hkind

theorem upToOrder_alike_searchMembers (key : String) :
    ∀ (ms : List (String × Json)) {ns : List (String × Json)},
      List.Forall₂ MemberAlike ms ns →
      UpToOrder Entry.Alike (searchMembers key ms) (searchMembers key ns)
  | [], _, .nil => .of_forall₂ .nil
  | (k, v) :: ms, (l, w) :: ns, .cons ⟨hk, hvw⟩ hs => by
    dsimp only at hk hvw
    subst hk
    have hhere : UpToOrder Entry.Alike (if k = key then Entry.ofMember k v else [])
        (if k = key then Entry.ofMember k w else []) := by
      split
      · exact .of_forall₂ (Entry.forall₂_alike_ofMember k hvw)
      · exact .of_forall₂ .nil
    rw [searchMembers, searchMembers]
    exact (hhere.append (upToOrder_alike_search key v hvw)).append
      (upToOrder_alike_searchMembers key ms hs)

theorem upToOrder_alike_searchItems (key : String) : ∀ (xs : List Json) {ys : List Json},
    List.Forall₂ Json.Alike xs ys →
    UpToOrder Entry.Alike (searchItems key xs) (searchItems key ys)
  | [], _, .nil => .of_forall₂ .nil
  | x :: xs, _, .cons h hs => by
    rw [searchItems, searchItems]
    exact (upToOrder_alike_search key x h).append (upToOrder_alike_searchItems key xs hs)

end

end Json

/-! ### Steps and runs -/

/-- Two outcomes agree: the collections have the same name and related entries, or the errors
are the same. -/
inductive Agree (R : List Entry → List Entry → Prop) :
    Except Error Collection → Except Error Collection → Prop
  | found {name : String} {es fs : List Entry} (h : R es fs) :
      Agree R (.ok ⟨name, es⟩) (.ok ⟨name, fs⟩)
  | failed (err : Error) : Agree R (.error err) (.error err)

theorem Agree.imp {R S : List Entry → List Entry → Prop} (himp : ∀ es fs, R es fs → S es fs)
    {x y : Except Error Collection} (h : Agree R x y) : Agree S x y := by
  cases h with
  | found h => exact .found (himp _ _ h)
  | failed err => exact .failed err

theorem Predicate.test_eq_of_alike (p : Predicate) {e f : Entry} (h : e.Alike f) :
    p.test e = p.test f :=
  holds_eq_of_same p.same_self h.value

/-- What a step does that goes neither through all members nor down to any depth. -/
theorem Step.agree_apply {s : Step} (hspread : s ≠ .spread) (hsearch : ∀ key, s ≠ .search key)
    {name : String} {es fs : List Entry} (h : List.Forall₂ Alike es fs) :
    Agree (List.Forall₂ Alike) (s.apply ⟨name, es⟩) (s.apply ⟨name, fs⟩) := by
  cases s with
  | descend key =>
    exact .found (List.rel_flatMap h fun _ _ hef => Json.forall₂_alike_descend key _ hef.value)
  | spread => exact absurd rfl hspread
  | search key => exact absurd rfl (hsearch key)
  | filter p =>
    refine .found (List.rel_filter ?_ h)
    intro e f hef
    exact Bool.eq_iff_iff.mp (p.test_eq_of_alike hef)
  | nth i =>
    rw [apply, apply, Collection.select, Collection.select, Collection.nth, Collection.nth]
    by_cases hi : i < es.length
    · have hi' : i < fs.length := h.length_eq ▸ hi
      rw [List.getElem?_eq_getElem hi, List.getElem?_eq_getElem hi']
      exact .found (.cons (h.get hi hi') .nil)
    · have hi' : ¬ i < fs.length := h.length_eq ▸ hi
      rw [List.getElem?_eq_none (Nat.le_of_not_lt hi),
        List.getElem?_eq_none (Nat.le_of_not_lt hi'), h.length_eq]
      exact .failed _

/-- What a step does that picks no entry by its place. -/
theorem Step.agree_apply_upToOrder {s : Step} (hnth : ∀ i, s ≠ .nth i) {name : String}
    {es fs : List Entry} (h : UpToOrder Alike es fs) :
    Agree (UpToOrder Alike) (s.apply ⟨name, es⟩) (s.apply ⟨name, fs⟩) := by
  cases s with
  | descend key =>
    exact .found (h.flatMap fun _ _ hef => .of_forall₂ (Json.forall₂_alike_descend key _ hef.value))
  | spread => exact .found (h.flatMap fun _ _ hef => hef.spread)
  | search key =>
    exact .found (h.flatMap fun _ _ hef => Json.upToOrder_alike_search key _ hef.value)
  | filter p => exact .found (h.filter fun _ _ hef => p.test_eq_of_alike hef)
  | nth i => exact absurd rfl (hnth i)

namespace Query

/-- What every step keeps of two collections side by side, a run keeps. -/
theorem agree_run {R : List Entry → List Entry → Prop} {ss : List Step}
    (hstep : ∀ s ∈ ss, ∀ {name es fs}, R es fs → Agree R (s.apply ⟨name, es⟩) (s.apply ⟨name, fs⟩))
    {name : String} {es fs : List Entry} (h : R es fs) :
    Agree R (run ⟨name, es⟩ ss) (run ⟨name, fs⟩ ss) := by
  induction ss generalizing name es fs with
  | nil => exact .found h
  | cons s ss ih =>
    have happly : Agree R (s.apply ⟨name, es⟩) (s.apply ⟨name, fs⟩) :=
      hstep s List.mem_cons_self h
    rw [run, run]
    generalize s.apply ⟨name, es⟩ = x at happly
    generalize s.apply ⟨name, fs⟩ = y at happly
    cases happly with
    | found h => exact ih (fun t ht => hstep t (List.mem_cons_of_mem _ ht)) h
    | failed err => exact .failed err

end Query

theorem Collection.sameEntries_iff {es fs : List Entry} :
    sameEntries es fs = true ↔ List.Forall₂ (fun e f => e.same f = true) es fs := by
  induction es generalizing fs with
  | nil => cases fs <;> simp [sameEntries]
  | cons e es ih => cases fs <;> simp [sameEntries, ih]

/-- Two documents that are the same up to the order of members are alike to every query.
Without spreading and searching it finds the same entries, one by one, or fails with the same
error; without picking it succeeds and finds the same entries up to their order. -/
theorem Query.eval_of_same {d e : Document} (h : d.same e = true) (q : Query) :
    (Step.spread ∉ q.steps → (∀ key, Step.search key ∉ q.steps) →
      Agree (fun es fs => Collection.sameEntries es fs = true) (q.eval d.root) (q.eval e.root)) ∧
    ((∀ i, Step.nth i ∉ q.steps) →
      ∃ a b, q.eval d.root = .ok a ∧ q.eval e.root = .ok b ∧ a.name = b.name ∧
        UpToOrder (fun f g => f.same g = true) a.entries b.entries ∧
        a.entries.length = b.entries.length) := by
  have hroot : (Entry.root d.value).Alike (Entry.root e.value) :=
    ⟨rfl, rfl, d.distinct, e.distinct, h⟩
  constructor
  · intro hspread hsearch
    have hagree : Agree (List.Forall₂ Alike) (q.eval d.root) (q.eval e.root) :=
      agree_run (fun s hs => Step.agree_apply (fun heq => hspread (heq ▸ hs)) fun key heq =>
        hsearch key (heq ▸ hs)) (.cons hroot .nil)
    refine hagree.imp fun es fs hrel => ?_
    exact Collection.sameEntries_iff.mpr (hrel.imp fun _ _ hef => hef.same)
  · intro hnth
    have hagree : Agree (UpToOrder Alike) (q.eval d.root) (q.eval e.root) :=
      agree_run (fun s hs => Step.agree_apply_upToOrder fun i heq => hnth i (heq ▸ hs))
        (UpToOrder.of_forall₂ (.cons hroot .nil))
    obtain ⟨a, ha⟩ : ∃ a, q.eval d.root = .ok a := exists_run_eq_ok hnth d.root
    obtain ⟨b, hb⟩ : ∃ b, q.eval e.root = .ok b := exists_run_eq_ok hnth e.root
    refine ⟨a, b, ha, hb, ?_⟩
    rw [ha, hb] at hagree
    cases hagree with
    | found hrel => exact ⟨rfl, hrel.imp fun _ _ hef => hef.same, hrel.length_eq⟩

/-- Members in another order on two levels, with a zero of another sign. -/
theorem Query.eval_of_same_reordered :
    let d : Document := .ofJson (.object [("a", .array [.object [("x", .null), ("y", .bool true)]]),
      ("b", .number (.double (.zero false)))])
    let e : Document := .ofJson (.object [("b", .number (.double (.zero true))),
      ("a", .array [.object [("y", .bool true), ("x", .null)]])])
    d.same e = true ∧
      (Step.spread ∉ [Step.descend "a", .filter (.has "x"), .nth 1] ∧
        (∀ key, Step.search key ∉ [Step.descend "a", .filter (.has "x"), .nth 1]) ∧
        Agree (fun es fs => Collection.sameEntries es fs = true)
          (Query.eval ⟨[.descend "a", .filter (.has "x"), .nth 1]⟩ d.root)
          (Query.eval ⟨[.descend "a", .filter (.has "x"), .nth 1]⟩ e.root)) ∧
      (∀ i, Step.nth i ∉ [Step.spread]) ∧
        ∃ a b, Query.eval ⟨[.spread]⟩ d.root = .ok a ∧ Query.eval ⟨[.spread]⟩ e.root = .ok b ∧
          a.name = b.name ∧ UpToOrder (fun f g => f.same g = true) a.entries b.entries ∧
          a.entries.length = b.entries.length := by
  intro d e
  have hsame : d.same e = true := by decide
  have hspread : Step.spread ∉ [Step.descend "a", .filter (.has "x"), .nth 1] := by simp
  have hsearch : ∀ key, Step.search key ∉ [Step.descend "a", .filter (.has "x"), .nth 1] := by simp
  have hnth : ∀ i, Step.nth i ∉ [Step.spread] := by simp
  exact ⟨hsame, ⟨hspread, hsearch, (Query.eval_of_same hsame ⟨_⟩).1 hspread hsearch⟩, hnth,
    (Query.eval_of_same hsame ⟨_⟩).2 hnth⟩

end PathQuery
