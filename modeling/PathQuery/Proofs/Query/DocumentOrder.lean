import PathQuery.Proofs.Document.Position
import PathQuery.Query.Basic

/-! # Answers in document order

A query without a `search` step never finds a node twice, nor one node inside another, and
what it finds comes in the order of the document.  All of this is `InOrder`, which every
step but `search` preserves: descending and spreading lead from a node to nodes in order
inside it, and the other two steps leave entries out. -/
namespace PathQuery

open Position

/-- From nodes in order, a step leads to nodes in order if it does from each of them. -/
theorem Json.InOrder.flatMap {v : Json} {es : List Entry} (h : v.InOrder (es.map Entry.value))
    {f : Entry → List Entry} (hf : ∀ e : Entry, e.value.InOrder ((f e).map Entry.value)) :
    v.InOrder ((es.flatMap f).map Entry.value) := by
  rw [List.map_flatMap, List.flatMap_def]
  refine h.flatten ?_
  rw [List.forall₂_map_left_iff, List.forall₂_map_right_iff, List.forall₂_same]
  exact fun e _ => hf e

namespace Entry

theorem map_value_elements (name : Name) (items : List Json) :
    (elements name items).map value = items := by
  apply List.ext_getElem?
  intro i
  simp [elements, Function.comp_def]

theorem map_value_children (e : Entry) : e.children.map value = e.value.childValues := by
  obtain ⟨name, index, v⟩ := e
  cases v with
  | object members => simp [children, Json.childValues]
  | array items => exact map_value_elements name items
  | _ => rfl

theorem inOrder_children (e : Entry) : e.value.InOrder (e.children.map value) := by
  rw [map_value_children]
  exact e.value.inOrder_childValues

theorem inOrder_ofMember (key : String) (v : Json) : v.InOrder ((ofMember key v).map value) := by
  unfold ofMember
  split
  · rw [map_value_elements]
    exact Json.inOrder_childValues _
  · exact v.inOrder_self

theorem inOrder_spread (e : Entry) : e.value.InOrder (e.spread.map value) := by
  unfold spread
  split
  · -- arrays among the members are opened once, and no further
    refine e.inOrder_children.flatMap fun c => ?_
    split
    · exact c.inOrder_children
    · exact c.value.inOrder_self
  · exact e.inOrder_children

end Entry

namespace Json

theorem descendItems_eq (key : String) (items : List Json) :
    descendItems key items = items.flatMap (descend key) := by
  induction items with
  | nil => rfl
  | cons v vs ih => rw [descendItems, ih, List.flatMap_cons]

mutual

theorem inOrder_descend (key : String) : ∀ v : Json, v.InOrder ((v.descend key).map Entry.value)
  | null | bool _ | number _ | string _ => inOrder_nil _
  | object members => by
    rw [descend]
    split
    · rename_i w hw
      -- a key that comes again later would not matter: the member is one of the children
      have hmem : w ∈ (object members).childValues :=
        List.mem_map.mpr ⟨(key, w), Members.mem_of_lookup hw, rfl⟩
      exact inOrder_of_mem_childValues hmem (Entry.inOrder_ofMember key w)
    · exact inOrder_nil _
  | array items => by
    rw [descend, descendItems_eq, List.map_flatMap, List.flatMap_def]
    exact inOrder_of_children (forall₂_descend key items)

theorem forall₂_descend (key : String) : ∀ items : List Json,
    List.Forall₂ InOrder items (items.map fun v => (v.descend key).map Entry.value)
  | [] => .nil
  | v :: vs => .cons (inOrder_descend key v) (forall₂_descend key vs)

end

end Json

variable {v : Json} {c d : Collection}

theorem Collection.select_eq_ok_iff {i : Nat} :
    c.select i = .ok d ↔ ∃ e, c.entries[i]? = some e ∧ d = ⟨c.name, [e]⟩ := by
  unfold select nth
  cases c.entries[i]? with
  | none => simp [Except.map]
  | some e => simp [Except.map, eq_comm]

/-- What one step preserves. -/
theorem Step.inOrder_apply {s : Step} (hs : ∀ key, s ≠ .search key)
    (hc : v.InOrder (c.entries.map Entry.value)) (h : s.apply c = .ok d) :
    v.InOrder (d.entries.map Entry.value) := by
  cases s with
  | descend key =>
    cases h
    exact hc.flatMap fun e => e.value.inOrder_descend key
  | spread =>
    cases h
    exact hc.flatMap Entry.inOrder_spread
  | search key => exact absurd rfl (hs key)
  | filter p =>
    cases h
    exact hc.sublist (List.filter_sublist.map Entry.value)
  | nth i =>
    obtain ⟨e, he, rfl⟩ := Collection.select_eq_ok_iff.mp h
    refine hc.sublist (List.Sublist.map Entry.value ?_)
    exact List.singleton_sublist.mpr (List.mem_of_getElem? he)

namespace Query

/-- What each of some steps preserves, a run of them preserves. -/
theorem run_preserves {P : Collection → Prop} {ss : List Step}
    (hstep : ∀ s ∈ ss, ∀ {c d : Collection}, P c → s.apply c = .ok d → P d)
    (hc : P c) (h : run c ss = .ok d) : P d := by
  induction ss generalizing c with
  | nil =>
    cases h
    exact hc
  | cons s ss ih =>
    rw [run] at h
    split at h
    · rename_i c' happly
      exact ih (fun t ht => hstep t (List.mem_cons_of_mem _ ht))
        (hstep s (List.mem_cons_self ..) hc happly) h
    · cases h

theorem inOrder_run {ss : List Step} (hs : ∀ key, Step.search key ∉ ss)
    (hc : v.InOrder (c.entries.map Entry.value)) (h : run c ss = .ok d) :
    v.InOrder (d.entries.map Entry.value) := by
  refine run_preserves (P := fun c => v.InOrder (c.entries.map Entry.value)) ?_ hc h
  intro s hmem c d hc happly
  refine Step.inOrder_apply ?_ hc happly
  rintro key rfl
  exact hs key hmem

/-- The answers of a query without a `search` step stand at increasing positions of the
document, none of which lies inside another. -/
theorem eval_in_document_order (doc : Document) (q : Query) (hq : ∀ key, Step.search key ∉ q.steps)
    (h : q.eval doc.root = .ok c) :
    ∃ ps : List Position,
      List.Forall₂ (fun p e => doc.value.at? p = some e.value) ps c.entries ∧
        ps.Pairwise fun p q => Before p q ∧ ¬ p <+: q ∧ ¬ q <+: p := by
  obtain ⟨ps, hat, hleft⟩ := inOrder_run hq doc.value.inOrder_self h
  rw [List.forall₂_map_right_iff] at hat
  exact ⟨ps, hat, hleft.imp fun h => ⟨h.before, h.not_inside⟩⟩

/-- Arrays are passed through on the way and at the end. -/
theorem eval_spread_in_document_order :
    ∃ ps : List Position,
      List.Forall₂ (fun p (e : Entry) =>
          (Json.object [("a", .array [.object [("b", .array [.null, .bool true])],
            .object [("b", .null)]])]).at? p = some e.value) ps
        [⟨.key "b", some 0, .null⟩, ⟨.key "b", some 1, .bool true⟩, ⟨.key "b", none, .null⟩] ∧
      ps.Pairwise fun p q => Before p q ∧ ¬ p <+: q ∧ ¬ q <+: p := by
  let doc : Document := .ofJson (.object [("a", .array [.object [("b", .array [.null, .bool true])],
    .object [("b", .null)]])])
  have hsteps (key : String) : Step.search key ∉ [.descend "a", .spread] := by simp
  have heval : Query.eval ⟨[.descend "a", .spread]⟩ doc.root = .ok ⟨"*",
      [⟨.key "b", some 0, .null⟩, ⟨.key "b", some 1, .bool true⟩, ⟨.key "b", none, .null⟩]⟩ := rfl
  exact eval_in_document_order doc _ hsteps heval

end Query

end PathQuery
