import Mathlib.Tactic.Choose
import PathQuery.Query.Basic

/-! # Queries entry by entry

A step that picks no entry by its place never fails and treats each entry by itself: there is
a function from entries to what is found from them, and the step applies it to one entry after
the other (`Step.ActsBy`).  Such functions compose, so a query without picking acts in that
way as a whole.

Picking is the only step that fails.  A query fails exactly if it gets stuck (`StuckAt`): some
of its steps succeed, and the next one picks at a place that the collection they lead to does
not have.  It gets stuck at one step only, which is therefore the first. -/
namespace PathQuery

variable {c d : Collection}

/-- The step leads from every collection to what `f` finds from its entries, one after the
other. -/
def Step.ActsBy (s : Step) (f : Entry → List Entry) : Prop :=
  ∀ c, ∃ d, s.apply c = .ok d ∧ d.entries = c.entries.flatMap f

theorem Step.exists_actsBy {s : Step} (hs : ∀ i, s ≠ .nth i) : ∃ f, s.ActsBy f := by
  cases s with
  | descend key => exact ⟨fun e => e.value.descend key, fun c => ⟨c.getKey key, rfl, rfl⟩⟩
  | spread => exact ⟨Entry.spread, fun c => ⟨c.spread, rfl, rfl⟩⟩
  | search key => exact ⟨fun e => e.value.search key, fun c => ⟨c.search key, rfl, rfl⟩⟩
  | filter p =>
    refine ⟨fun e => [e].filter p.test, fun c => ⟨c.filter p.test, rfl, ?_⟩⟩
    rw [← List.filter_flatMap, List.flatMap_singleton']
    rfl
  | nth i => exact absurd rfl (hs i)

/-- Picking at a place that the collection does not have is the only failure. -/
theorem Step.apply_eq_error_iff {s : Step} {err : Error} :
    s.apply c = .error err ↔
      ∃ i, s = .nth i ∧ c.entries.length ≤ i ∧ err = .indexOutOfRange i c.entries.length := by
  cases s with
  | nth i =>
    simp only [apply, Collection.select, Collection.nth, nth.injEq, exists_eq_left']
    cases hi : c.entries[i]? with
    | none =>
      have hle : c.entries.length ≤ i := List.getElem?_eq_none_iff.mp hi
      simp [Except.map, hle, eq_comm]
    | some e =>
      have hlt : i < c.entries.length := (List.getElem?_eq_some_iff.mp hi).1
      simp [Except.map, Nat.not_le.mpr hlt]
  | _ => simp [apply]

namespace Query

/-- The steps lead from every collection to what `f` finds from its entries, one after the
other. -/
def ActsBy (ss : List Step) (f : Entry → List Entry) : Prop :=
  ∀ c, ∃ d, run c ss = .ok d ∧ d.entries = c.entries.flatMap f

theorem run_cons_of_ok {s : Step} {ss : List Step} (h : s.apply c = .ok d) :
    run c (s :: ss) = run d ss := by
  simp only [run, h]

theorem run_cons_of_error {s : Step} {ss : List Step} {err : Error}
    (h : s.apply c = .error err) : run c (s :: ss) = .error err := by
  simp only [run, h]

theorem exists_actsBy {ss : List Step} (hss : ∀ i, Step.nth i ∉ ss) : ∃ f, ActsBy ss f := by
  induction ss with
  | nil => exact ⟨fun e => [e], fun c => ⟨c, rfl, (List.flatMap_singleton' _).symm⟩⟩
  | cons s ss ih =>
    have hs : ∀ i, s ≠ .nth i := fun i hi => hss i (hi ▸ List.mem_cons_self)
    obtain ⟨f, hf⟩ := Step.exists_actsBy hs
    obtain ⟨g, hg⟩ := ih fun i hi => hss i (List.mem_cons_of_mem _ hi)
    refine ⟨fun e => (f e).flatMap g, fun c => ?_⟩
    obtain ⟨c', happly, hc'⟩ := hf c
    obtain ⟨d, hrun, hd⟩ := hg c'
    exact ⟨d, (run_cons_of_ok happly).trans hrun, by rw [hd, hc', List.flatMap_assoc]⟩

/-- A query without picking succeeds. -/
theorem exists_run_eq_ok {ss : List Step} (hss : ∀ i, Step.nth i ∉ ss) (c : Collection) :
    ∃ d, run c ss = .ok d := by
  obtain ⟨f, hf⟩ := exists_actsBy hss
  obtain ⟨d, hd, -⟩ := hf c
  exact ⟨d, hd⟩

/-- Where steps get stuck: those `before` lead to `n` entries, and the next picks the one at
`i`, which is not there. -/
structure StuckAt (c : Collection) (ss before : List Step) (i n : Nat) : Prop where
  next : before ++ [.nth i] <+: ss
  reached : ∃ d, run c before = .ok d ∧ d.entries.length = n
  beyond : n ≤ i

theorem StuckAt.cons {s : Step} (happly : s.apply c = .ok d) {ss before : List Step} {i n : Nat}
    (h : StuckAt d ss before i n) : StuckAt c (s :: ss) (s :: before) i n where
  next := List.cons_prefix_cons.mpr ⟨rfl, h.next⟩
  reached := by
    obtain ⟨e, he, hn⟩ := h.reached
    exact ⟨e, (run_cons_of_ok happly).trans he, hn⟩
  beyond := h.beyond

/-- Steps that get stuck fail, whatever comes after. -/
theorem StuckAt.run_eq_error {ss before : List Step} {i n : Nat} (h : StuckAt c ss before i n) :
    run c ss = .error (.indexOutOfRange i n) := by
  obtain ⟨⟨rest, rfl⟩, ⟨d, hd, rfl⟩, hle⟩ := h
  have hpick : (Step.nth i).apply d = .error (.indexOutOfRange i d.entries.length) :=
    Step.apply_eq_error_iff.mpr ⟨i, rfl, hle, rfl⟩
  rw [List.append_assoc, run_append, hd]
  exact run_cons_of_error hpick

theorem exists_stuckAt {ss : List Step} {err : Error} (h : run c ss = .error err) :
    ∃ before i n, StuckAt c ss before i n ∧ err = .indexOutOfRange i n := by
  induction ss generalizing c with
  | nil => cases h
  | cons s ss ih =>
    cases happly : s.apply c with
    | error e =>
      rw [run_cons_of_error happly] at h
      cases h
      obtain ⟨i, rfl, hle, rfl⟩ := Step.apply_eq_error_iff.mp happly
      exact ⟨[], i, c.entries.length, ⟨⟨ss, rfl⟩, ⟨c, rfl, rfl⟩, hle⟩, rfl⟩
    | ok d =>
      rw [run_cons_of_ok happly] at h
      obtain ⟨before, i, n, hstuck, herr⟩ := ih h
      exact ⟨s :: before, i, n, hstuck.cons happly, herr⟩

/-- Steps that get stuck have not been stuck before. -/
theorem StuckAt.length_le {ss before before' : List Step} {i n i' n' : Nat}
    (h : StuckAt c ss before i n) (h' : StuckAt c ss before' i' n') :
    before'.length ≤ before.length := by
  rcases Nat.lt_or_ge before.length before'.length with hlt | hge
  · -- the first of the two places would lie among the steps that succeed
    have hpre : before ++ [.nth i] <+: before' := by
      refine List.prefix_of_prefix_length_le h.next ((List.prefix_append _ _).trans h'.next) ?_
      simpa [Nat.succ_le_iff] using hlt
    have herr := StuckAt.run_eq_error ⟨hpre, h.reached, h.beyond⟩
    obtain ⟨d, hd, -⟩ := h'.reached
    rw [hd] at herr
    cases herr
  · exact hge

theorem StuckAt.unique {ss before before' : List Step} {i n i' n' : Nat}
    (h : StuckAt c ss before i n) (h' : StuckAt c ss before' i' n') :
    before = before' ∧ i = i' ∧ n = n' := by
  have hlength : before.length = before'.length := Nat.le_antisymm (h'.length_le h) (h.length_le h')
  have hbefore : before = before' :=
    (List.prefix_of_prefix_length_le ((List.prefix_append _ _).trans h.next)
      ((List.prefix_append _ _).trans h'.next) (Nat.le_of_eq hlength)).eq_of_length hlength
  have herr := h.run_eq_error.symm.trans h'.run_eq_error
  simp only [Except.error.injEq, Error.indexOutOfRange.injEq] at herr
  exact ⟨hbefore, herr⟩

/-- A query that picks no entry by its place never fails, and finds what it finds from each
entry alone, in the order of the entries.  Any query fails exactly if it gets stuck, which it
does at one step only, and the error names the place that it picks at there and the number of
entries that there are. -/
theorem eval_entry_by_entry (q : Query) (c : Collection) :
    ((∀ i, Step.nth i ∉ q.steps) →
      ∃ d, q.eval c = .ok d ∧ ∃ part : Entry → Collection,
        (∀ e, q.eval ⟨c.name, [e]⟩ = .ok (part e)) ∧
          d.entries = c.entries.flatMap fun e => (part e).entries) ∧
    (∀ err, q.eval c = .error err ↔
      ∃ before i n, StuckAt c q.steps before i n ∧ err = .indexOutOfRange i n) ∧
    ∀ before i n before' i' n', StuckAt c q.steps before i n → StuckAt c q.steps before' i' n' →
      before = before' ∧ i = i' ∧ n = n' := by
  refine ⟨fun hq => ?_, fun err => ⟨exists_stuckAt, ?_⟩, fun _ _ _ _ _ _ => StuckAt.unique⟩
  · obtain ⟨f, hf⟩ := exists_actsBy hq
    obtain ⟨d, hd, hentries⟩ := hf c
    choose part hpart hfound using fun e => hf ⟨c.name, [e]⟩
    refine ⟨d, hd, part, hpart, ?_⟩
    have hpieces : (fun e => (part e).entries) = f := by
      funext e
      simpa using hfound e
    rw [hentries, hpieces]
  · rintro ⟨before, i, n, hstuck, rfl⟩
    exact hstuck.run_eq_error

/-- Of two entries one has nothing under the key.  Together they lead to one entry, so a pick
at place 1 after that is out of range. -/
theorem eval_entry_by_entry_pair :
    let c : Collection := ⟨"x", [⟨.key "x", some 0, .object [("a", .array [.bool true])]⟩,
      ⟨.key "x", some 1, .null⟩]⟩
    (∀ i, Step.nth i ∉ [Step.descend "a", .spread]) ∧
      (∃ d, Query.eval ⟨[.descend "a", .spread]⟩ c = .ok d ∧ ∃ part : Entry → Collection,
        (∀ e, Query.eval ⟨[.descend "a", .spread]⟩ ⟨"x", [e]⟩ = .ok (part e)) ∧
          d.entries = c.entries.flatMap fun e => (part e).entries) ∧
      Query.eval ⟨[.descend "a", .nth 1, .spread]⟩ c = .error (.indexOutOfRange 1 1) := by
  intro c
  have hpick : StuckAt c [.descend "a", .nth 1, .spread] [.descend "a"] 1 1 :=
    ⟨⟨[.spread], rfl⟩, ⟨c.getKey "a", rfl, rfl⟩, Nat.le_refl 1⟩
  have hplain : ∀ i, Step.nth i ∉ [Step.descend "a", .spread] := by simp
  exact ⟨hplain, (eval_entry_by_entry ⟨[.descend "a", .spread]⟩ c).1 hplain,
    ((eval_entry_by_entry ⟨[.descend "a", .nth 1, .spread]⟩ c).2.1 _).mpr ⟨_, _, _, hpick, rfl⟩⟩

end Query

end PathQuery
