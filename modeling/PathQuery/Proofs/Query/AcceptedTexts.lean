import PathQuery.Proofs.Query.Completeness
import PathQuery.Proofs.Query.Soundness

/-! # The texts that are accepted

The two directions, carried from predicates to brackets, items and whole queries: a text is
read as a query exactly if the grammar derives it for that query
(`readTrimmed_eq_ok_iff`).

The one place where two rules compete is the bracket.  Digits alone also spell a field
name, so a bracket around them derives a test for that field as well as a place.  The
reader takes the place, and `Selector` says so by a side condition;
`has_of_ordinal` shows that no other predicate is affected. -/
namespace PathQuery.Query

open Text Reader Grammar

/-! ### Brackets -/

/-- The readers of predicates skip the blanks in front by themselves. -/
theorem outcome_disjunction_trimStart (s : List Char) :
    outcome (disjunction (trimStart s)) = outcome (disjunction s) := by
  have hunary : outcome (unary (trimStart s)) = outcome (unary s) := by
    rw [outcome_unary, outcome_unary s, trimStart_trimStart]
  rw [outcome_disjunction, outcome_disjunction s, outcome_conjunction, outcome_conjunction s,
    hunary]

/-- A predicate whose bracket starts like that of a place is the test for the digits, and
the two brackets are the same. -/
theorem has_of_ordinal {w t r v u ds : List Char} {p : Predicate}
    (h : Condition .disjunction w p) (ht : Blanks t) (hv : Ordinal v ds)
    (he : w ++ t ++ ']' :: r = v ++ ']' :: u) : p = .has (String.ofList ds) ∧ w ++ t = v := by
  obtain @⟨b, ds, c, hb, hne, hds, hc⟩ := hv
  have hfield : Condition .disjunction (b ++ ds) (.has (String.ofList ds)) :=
    .term (.operand (.has hb (.bare hne fun d hd => Word.isNameChar_of_isDigit (hds d hd))))
  have hread := disjunction_of_condition h
    (closed_append ht (by decide) (by decide) : Closed [')', ']'] (t ++ ']' :: r))
  have hread' := disjunction_of_condition hfield
    (closed_append hc (by decide) (by decide) : Closed [')', ']'] (c ++ ']' :: u))
  have htext : w ++ (t ++ ']' :: r) = b ++ ds ++ (c ++ ']' :: u) := by simpa using he
  rw [htext, hread'] at hread
  obtain ⟨rfl, hrest⟩ := Prod.mk.inj (Except.ok.inj hread)
  refine ⟨rfl, ?_⟩
  -- the blanks before the bracket are the same, so the text before them is as well
  obtain ⟨rfl, hu⟩ := run_unique hc ht (stops_cons (by decide) u) (stops_cons (by decide) r) hrest
  rw [hu] at he
  exact List.append_cancel_right he

theorem selector_of_selector {s r : List Char} {st : Step}
    (h : outcome (selector s) = .ok (st, r)) : ∃ w, Selector w st ∧ s = w ++ ']' :: r := by
  rw [outcome_selector] at h
  split at h
  · rename_i ds u hds
    obtain ⟨w, hw, rfl⟩ := ordinal_of_placed? hds
    split at h
    · rename_i hfits
      injection h with h
      obtain ⟨rfl, rfl⟩ := Prod.mk.inj h
      exact ⟨w, .nth hw hfits, rfl⟩
    · cases h
  · rename_i hnone
    rw [bind_eq_ok] at h
    obtain ⟨⟨p, v⟩, hp, h⟩ := h
    simp only at h
    split at h
    · rename_i u hu
      rw [after?_eq_some] at hu
      injection h with h
      obtain ⟨rfl, rfl⟩ := Prod.mk.inj h
      rw [outcome_disjunction_trimStart] at hp
      obtain ⟨w, hw, rfl⟩ := condition_of_disjunction hp
      obtain ⟨t, ht, hv⟩ := exists_blanks_trimStart v
      have hs : w ++ v = w ++ t ++ ']' :: u := by rw [hv, hu]; simp
      refine ⟨_, .filter hw ht ?_, hs⟩
      intro ds hds
      rw [hs, placed?_of_ordinal hds] at hnone
      cases hnone
    · cases h

theorem outcome_selector_of_selector {w : List Char} {st : Step} (h : Selector w st)
    (r : List Char) : outcome (selector (w ++ ']' :: r)) = .ok (st, r) := by
  rw [outcome_selector]
  cases h with
  | nth hw hfits => rw [placed?_of_ordinal hw]; simp only [if_pos hfits]
  | @filter w t p hp ht hplace =>
    -- a place read here would be the whole bracket, which the rule excludes
    have hnone : placed? (w ++ t ++ ']' :: r) = none := by
      rcases hds : placed? (w ++ t ++ ']' :: r) with _ | ⟨ds, u⟩
      · rfl
      · obtain ⟨v, hv, he⟩ := ordinal_of_placed? hds
        exact absurd ((has_of_ordinal hp ht hv he).2 ▸ hv) (hplace ds)
    have hread := disjunction_of_condition hp
      (closed_append ht (by decide) (by decide) : Closed [')', ']'] (t ++ ']' :: r))
    rw [hnone, outcome_disjunction_trimStart, List.append_assoc, hread]
    simp only [Except.bind, trimStart_append ht]
    rw [trimStart_cons (by decide), after?_self]

/-! ### Items -/

theorem item_of_nameStep {s r : List Char} {st : Step} {first : Bool}
    (h : nameStep s = .ok (st, r)) : ∃ w, Item first (lead first ++ w) st ∧ s = w ++ r := by
  rw [nameStep, map_eq_ok] at h
  obtain ⟨⟨x, u⟩, hx, he⟩ := h
  obtain ⟨rfl, rfl⟩ := Prod.mk.inj he
  rcases written_of_name hx with ⟨rfl, rfl⟩ | ⟨w, k, rfl, hk, rfl⟩
  · exact ⟨['*'], .spread, rfl⟩
  · exact ⟨w, .descend hk, rfl⟩

theorem item_of_item {query s r : List Char} {first : Bool} {st : Step}
    (h : outcome (item query first s) = .ok (st, r)) : ∃ w, Item first w st ∧ s = w ++ r := by
  rw [outcome_item] at h
  split at h
  · rename_i t _ ht
    rw [afterPoints?_eq_some] at ht
    rw [bind_eq_ok] at h
    obtain ⟨⟨x, u⟩, hx, h⟩ := h
    rcases written_of_name hx with ⟨rfl, -⟩ | ⟨w, k, rfl, hk, rfl⟩
    · cases h
    · injection h with h
      obtain ⟨rfl, rfl⟩ := Prod.mk.inj h
      exact ⟨_, .search hk, by rw [ht]; rfl⟩
  · rename_i t _ ht
    rw [after?_eq_some] at ht
    obtain ⟨w, hw, rfl⟩ := selector_of_selector h
    exact ⟨_, .bracket hw, by rw [ht]; simp⟩
  · split at h
    · rename_i hfirst
      subst hfirst
      obtain ⟨w, hw, rfl⟩ := item_of_nameStep h
      exact ⟨w, hw, rfl⟩
    · rename_i hfirst
      obtain rfl : first = false := Bool.eq_false_iff.mpr hfirst
      split at h
      · cases h
      · rename_i t ht
        rw [after?_eq_some] at ht
        obtain ⟨w, hw, rfl⟩ := item_of_nameStep h
        exact ⟨_, hw, by rw [ht]; rfl⟩

/-- A name in an item is read, whether or not a point stands before it. -/
theorem outcome_item_of_name {query w : List Char} {first : Bool} {c : Char} {st : Step}
    {r : List Char} (hw : w.head? = some c) (hp : c ≠ '.') (hb : c ≠ '[')
    (h : nameStep (w ++ r) = .ok (st, r)) :
    outcome (item query first (lead first ++ w ++ r)) = .ok (st, r) := by
  obtain ⟨v, rfl⟩ := List.head?_eq_some_iff.mp hw
  rw [outcome_item]
  cases first with
  | true =>
    have hpoints : afterPoints? (c :: (v ++ r)) = none := by
      simp [afterPoints?, after?_of_ne hp]
    simpa [lead, hpoints, after?_of_ne hb] using h
  | false =>
    have hpoints : afterPoints? ('.' :: c :: (v ++ r)) = none := by
      simp [afterPoints?, after?_of_ne hp]
    simpa [lead, hpoints, after?_of_ne (show '.' ≠ '[' by decide)] using h

theorem outcome_item_of_item {w r : List Char} {first : Bool} {st : Step} (h : Item first w st)
    (hr : Stops Word.isNameChar r) (query : List Char) :
    outcome (item query first (w ++ r)) = .ok (st, r) := by
  cases h with
  | @descend w k hk =>
    obtain ⟨c, v, rfl, hc⟩ := key_front hk
    have hp : c ≠ '.' := by
      rintro rfl
      exact absurd hc (by decide)
    have hb : c ≠ '[' := by
      rintro rfl
      exact absurd hc (by decide)
    refine outcome_item_of_name rfl hp hb ?_
    rw [nameStep, name_of_key hk hr]
    rfl
  | spread =>
    refine outcome_item_of_name rfl (by decide) (by decide) ?_
    rw [nameStep, List.singleton_append, outcome_name_star]
    rfl
  | @search w k hk =>
    have hpoints : afterPoints? ('.' :: '.' :: (w ++ r)) = some (w ++ r) :=
      afterPoints?_eq_some.mpr rfl
    rw [outcome_item, List.cons_append, List.cons_append, hpoints]
    simp only [name_of_key hk hr, Except.bind]
  | @bracket w s hs =>
    have htext : '[' :: w ++ [']'] ++ r = '[' :: (w ++ ']' :: r) := by simp
    have hpoints : afterPoints? ('[' :: (w ++ ']' :: r)) = none := by
      simp [afterPoints?, after?_of_ne (show '[' ≠ '.' by decide)]
    rw [htext, outcome_item, hpoints, after?_self]
    exact outcome_selector_of_selector hs r

/-- Every item takes something. -/
theorem item_ne_nil {w : List Char} {first : Bool} {st : Step} (h : Item first w st) :
    w ≠ [] := by
  cases h with
  | descend hk =>
    obtain ⟨c, v, rfl, -⟩ := key_front hk
    simp
  | spread => simp
  | search => simp
  | bracket => simp

/-- Further items start where a name ends. -/
theorem further_stops {v : List Char} {ss : List Step} (h : Further v ss) :
    Stops Word.isNameChar v := by
  cases h with
  | nil => exact stops_nil _
  | cons h =>
    cases h <;> exact stops_cons (by decide) _

theorem further_of_items {query : List Char} {first : Bool} {s : List Char} {ss : List Step}
    (h : items query first s = .ok ss) :
    s = [] ∧ ss = [] ∨
      ∃ w v st ts, Item first w st ∧ Further v ts ∧ s = w ++ v ∧ ss = st :: ts := by
  by_cases hs : s = []
  · subst hs
    rw [items_nil] at h
    injection h with h
    exact .inl ⟨rfl, h.symm⟩
  · rw [items_of_ne_nil query first hs, bind_eq_ok] at h
    obtain ⟨⟨st, v⟩, hst, h⟩ := h
    rw [map_eq_ok] at h
    obtain ⟨ts, hts, rfl⟩ := h
    obtain ⟨w, hw, rfl⟩ := item_of_item hst
    have hlen : v.length < (w ++ v).length := by
      have := List.length_pos_iff.mpr (item_ne_nil hw)
      rw [List.length_append]
      omega
    refine .inr ⟨w, v, st, ts, hw, ?_, rfl, rfl⟩
    rcases further_of_items hts with ⟨rfl, rfl⟩ | ⟨w', v', st', ts', hw', hv', rfl, rfl⟩
    · exact .nil
    · exact .cons hw' hv'
termination_by s.length

theorem items_of_further {v : List Char} {ss : List Step} (h : Further v ss)
    (query : List Char) : items query false v = .ok ss := by
  induction h with
  | nil => exact items_nil query false
  | @cons w v s ss hw hv ih =>
    have hne : w ++ v ≠ [] := fun he => item_ne_nil hw (List.append_eq_nil_iff.mp he).1
    rw [items_of_ne_nil query false hne, outcome_item_of_item hw (further_stops hv)]
    simp only [Except.bind, ih, Except.map]

theorem items_of_items {t : List Char} {ss : List Step} (h : Items t ss) (query : List Char) :
    items query true t = .ok ss := by
  obtain @⟨w, v, s, ss, hw, hv⟩ := h
  have hne : w ++ v ≠ [] := fun he => item_ne_nil hw (List.append_eq_nil_iff.mp he).1
  rw [items_of_ne_nil query true hne, outcome_item_of_item hw (further_stops hv)]
  simp only [Except.bind, items_of_further hv, Except.map]

/-! ### Queries -/

/-- The point that `dropPoint` takes off stands alone. -/
theorem dropPoint_cases (t : List Char) :
    dropPoint t = t ∨ t = '.' :: dropPoint t ∧ ¬ ['.', '.'] <+: t := by
  unfold dropPoint
  split
  · exact .inl rfl
  · rename_i s hs
    refine .inr ⟨rfl, ?_⟩
    rintro ⟨u, hu⟩
    exact hs u (List.cons.inj hu).2.symm
  · exact .inl rfl

theorem dropPoint_pointed {t : List Char} (h : ¬ ['.', '.'] <+: '.' :: t) :
    dropPoint ('.' :: t) = t := by
  rcases dropPoint_cases ('.' :: t) with he | ⟨he, -⟩
  · unfold dropPoint at he
    split at he
    · rename_i s hs
      exact absurd ⟨s, hs.symm⟩ h
    · rename_i s _ hs
      obtain rfl := (List.cons.inj hs).2
      exact absurd (congrArg List.length he) (by simp)
    · rename_i hs
      exact absurd rfl (hs t)
  · exact (List.cons.inj he).2.symm

/-- A first item does not start with a single point. -/
theorem dropPoint_of_items {t : List Char} {ss : List Step} (h : Items t ss) :
    dropPoint t = t ∧ t ≠ [] := by
  obtain @⟨w, v, s, ss, hw, hv⟩ := h
  refine ⟨?_, fun he => item_ne_nil hw (List.append_eq_nil_iff.mp he).1⟩
  cases hw with
  | @descend w k hk =>
    obtain ⟨c, u, rfl, hc⟩ := key_front hk
    have hp : c ≠ '.' := by
      rintro rfl
      exact absurd hc (by decide)
    simp [lead, dropPoint, hp]
  | spread => simp [lead, dropPoint]
  | search => simp [dropPoint]
  | bracket => simp [dropPoint]

/-- Reading a text without blanks around it is deriving it. -/
theorem readTrimmed_eq_ok_iff {t : List Char} {q : Query} :
    readTrimmed t = .ok q ↔ Accepts t q := by
  constructor
  · intro h
    unfold readTrimmed at h
    split at h
    · cases h
    · rename_i ss hss
      injection h with h
      subst h
      rcases further_of_items hss with ⟨hnil, rfl⟩ | ⟨w, v, st, ts, hw, hv, hdrop, rfl⟩
      · rcases dropPoint_cases t with he | ⟨he, -⟩
        · exact .inl ⟨.inl (he ▸ hnil), rfl⟩
        · exact .inl ⟨.inr (by rw [he, hnil]), rfl⟩
      · have hitems : Items (dropPoint t) (st :: ts) := hdrop ▸ .mk hw hv
        rcases dropPoint_cases t with he | ⟨he, hdots⟩
        · exact .inr (.plain (he ▸ hitems))
        · rw [he] at hdots ⊢
          exact .inr (.pointed hdots hitems)
  · rintro (⟨ht, hq⟩ | h)
    · obtain ⟨ss⟩ := q
      obtain rfl : ss = [] := hq
      rcases ht with rfl | rfl <;> simp [readTrimmed, dropPoint, items_nil]
    · unfold readTrimmed
      cases h with
      | plain h => rw [(dropPoint_of_items h).1, items_of_items h]
      | pointed hdots h => rw [dropPoint_pointed hdots, items_of_items h]

/-- A text is read as a query exactly if, without the blanks around it, it is the text of
that query in the grammar. -/
theorem read_eq_ok_iff_accepts (s : String) (q : Query) :
    read s = .ok q ↔
      ((trim s.toList = [] ∨ trim s.toList = ['.']) ∧ q.steps = []) ∨
        Derives (trim s.toList) q :=
  readTrimmed_eq_ok_iff

end PathQuery.Query
