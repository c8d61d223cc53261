import Mathlib.Data.List.Forall2
import PathQuery.Json.Basic

/-! # Positions in a document

A position says which child to go to at each level, from the whole value down.  Positions
are ordered as a document is read: a node comes before the nodes inside it, and everything
in one child before everything in the next.  This is the lexicographic order, `Before`.

What a query finds is more than increasing in that order, because no node lies inside
another one: of any two positions the first branches off to the left (`LeftOf`).  Unlike
`Before`, this is kept when both positions are extended, so it carries over from the nodes
that a step starts at to the nodes it leads to (`InOrder.flatten`). -/
namespace PathQuery

/-- Which child to go to at each level. -/
abbrev Position := List Nat

namespace Position

/-- Document pre-order. -/
def Before (p q : Position) : Prop := List.Lex (· < ·) p q

/-- One position branches off to the left of another. -/
inductive LeftOf : Position → Position → Prop
  | head {i j : Nat} (h : i < j) (p q : Position) : LeftOf (i :: p) (j :: q)
  | tail (i : Nat) {p q : Position} (h : LeftOf p q) : LeftOf (i :: p) (i :: q)

theorem LeftOf.append {p q : Position} (h : LeftOf p q) (s t : Position) :
    LeftOf (p ++ s) (q ++ t) := by
  induction h with
  | head h p q => exact .head h _ _
  | tail i _ ih => exact .tail i ih

theorem LeftOf.prepend {p q : Position} (h : LeftOf p q) : ∀ r : Position, LeftOf (r ++ p) (r ++ q)
  | [] => h
  | i :: r => .tail i (h.prepend r)

theorem LeftOf.before {p q : Position} (h : LeftOf p q) : Before p q := by
  induction h with
  | head h p q => exact .rel h
  | tail i _ ih => exact .cons ih

theorem LeftOf.not_inside {p q : Position} (h : LeftOf p q) : ¬ p <+: q ∧ ¬ q <+: p := by
  induction h with
  | head h p q =>
    simp only [List.cons_prefix_cons]
    omega
  | tail i _ ih =>
    simp only [List.cons_prefix_cons]
    exact ⟨fun hp => ih.1 hp.2, fun hq => ih.2 hq.2⟩

end Position

open Position

namespace Json

/-- The values right inside a value, in the order of the document. -/
def childValues : Json → List Json
  | object members => members.map Prod.snd
  | array items => items
  | _ => []

/-- The node at a position. -/
def at? : Position → Json → Option Json
  | [], v => some v
  | i :: p, v => v.childValues[i]?.bind (at? p)

theorem at?_append {p : Position} {v w : Json} (h : v.at? p = some w) (q : Position) :
    v.at? (p ++ q) = w.at? q := by
  induction p generalizing v with
  | nil =>
    cases h
    rfl
  | cons i p ih =>
    obtain ⟨u, hu, hw⟩ := Option.bind_eq_some_iff.mp h
    rw [List.cons_append, at?, hu]
    exact ih hw

/-- Nodes of a value, each at a position of its own, from the left to the right. -/
def InOrder (v : Json) (ws : List Json) : Prop :=
  ∃ ps : List Position, List.Forall₂ (fun p w => v.at? p = some w) ps ws ∧ ps.Pairwise LeftOf

theorem inOrder_nil (v : Json) : v.InOrder [] := ⟨[], .nil, .nil⟩

theorem inOrder_self (v : Json) : v.InOrder [v] :=
  ⟨[[]], .cons rfl .nil, List.pairwise_singleton ..⟩

theorem inOrder_childValues (v : Json) : v.InOrder v.childValues := by
  -- the positions of one step, from the first child to the last
  refine ⟨(List.range v.childValues.length).map ([·]), ?_, ?_⟩
  · rw [List.forall₂_map_left_iff, List.forall₂_iff_get]
    refine ⟨List.length_range, fun i hi hw => ?_⟩
    simp [at?]
  · rw [List.pairwise_map]
    exact List.pairwise_lt_range.imp fun h => .head h [] []

theorem InOrder.sublist {v : Json} {ws us : List Json} (h : v.InOrder ws) (hsub : us.Sublist ws) :
    v.InOrder us := by
  obtain ⟨ps, hat, hleft⟩ := h
  obtain ⟨qs, hqs, hat'⟩ : ∃ qs : List Position,
      qs.Sublist ps ∧ List.Forall₂ (fun p w => v.at? p = some w) qs us := by
    -- the choice of positions needs nothing of their order
    clear hleft
    induction hsub generalizing ps with
    | slnil => exact ⟨[], List.nil_sublist ps, .nil⟩
    | cons w _ ih =>
      obtain ⟨p, ps', -, hps, rfl⟩ := List.forall₂_cons_right_iff.mp hat
      obtain ⟨qs, hqs, hat'⟩ := ih ps' hps
      exact ⟨qs, hqs.cons p, hat'⟩
    | cons_cons w _ ih =>
      obtain ⟨p, ps', hp, hps, rfl⟩ := List.forall₂_cons_right_iff.mp hat
      obtain ⟨qs, hqs, hat'⟩ := ih ps' hps
      exact ⟨p :: qs, hqs.cons_cons p, .cons hp hat'⟩
  exact ⟨qs, hat', hleft.sublist hqs⟩

/-- What lies in order inside each of some nodes that are in order is in order altogether. -/
theorem InOrder.flatten {v : Json} {ws : List Json} {wss : List (List Json)} (h : v.InOrder ws)
    (hin : List.Forall₂ InOrder ws wss) : v.InOrder wss.flatten := by
  obtain ⟨ps, hat, hleft⟩ := h
  -- each new position extends one of the old, and so inherits its place
  suffices ∃ qs : List Position, List.Forall₂ (fun p w => v.at? p = some w) qs wss.flatten ∧
      qs.Pairwise LeftOf ∧ ∀ q ∈ qs, ∃ p ∈ ps, p <+: q by
    obtain ⟨qs, hqs, hleft', -⟩ := this
    exact ⟨qs, hqs, hleft'⟩
  induction hat generalizing wss with
  | nil =>
    cases hin
    exact ⟨[], .nil, .nil, by simp⟩
  | @cons p w ps ws hp _ ih =>
    cases hin with
    | @cons _ us _ wss hus hwss =>
      obtain ⟨rs, hrs, hrleft⟩ := hus
      obtain ⟨qs, hqs, hqleft, hext⟩ := ih hwss (List.pairwise_cons.mp hleft).2
      refine ⟨rs.map (p ++ ·) ++ qs, ?_, ?_, ?_⟩
      · refine List.rel_append ?_ hqs
        rw [List.forall₂_map_left_iff]
        exact hrs.imp fun r u hr => by rw [at?_append hp, hr]
      · refine List.pairwise_append.mpr ⟨?_, hqleft, ?_⟩
        · exact List.pairwise_map.mpr (hrleft.imp fun h => h.prepend p)
        · intro a ha b hb
          obtain ⟨r, -, rfl⟩ := List.mem_map.mp ha
          obtain ⟨p', hp', t, rfl⟩ := hext b hb
          exact ((List.pairwise_cons.mp hleft).1 p' hp').append r t
      · intro q hq
        rcases List.mem_append.mp hq with hq | hq
        · obtain ⟨r, -, rfl⟩ := List.mem_map.mp hq
          exact ⟨p, List.mem_cons_self .., List.prefix_append p r⟩
        · obtain ⟨p', hp', hpre⟩ := hext q hq
          exact ⟨p', List.mem_cons_of_mem _ hp', hpre⟩

/-- What lies in order inside each child is in order altogether. -/
theorem inOrder_of_children {v : Json} {wss : List (List Json)}
    (h : List.Forall₂ InOrder v.childValues wss) : v.InOrder wss.flatten :=
  v.inOrder_childValues.flatten h

/-- What lies in order inside a child is in order. -/
theorem inOrder_of_mem_childValues {v w : Json} (hw : w ∈ v.childValues) {us : List Json}
    (h : w.InOrder us) : v.InOrder us := by
  have hsingle : v.InOrder [w] := v.inOrder_childValues.sublist (List.singleton_sublist.mpr hw)
  have hflat := hsingle.flatten (.cons h .nil)
  rwa [List.flatten_singleton] at hflat

end Json

end PathQuery
