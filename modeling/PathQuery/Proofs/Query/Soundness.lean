import PathQuery.Proofs.Query.Tokens

/-! # What the readers take is derived

Whatever part of a query a reader takes off a text, the grammar derives that text for that
part.  The readers of predicates call each other, so the five facts about them are proved
together, on the length of the text and, at one length, on the strength that is read. -/
namespace PathQuery.Query

open Text Reader Grammar

/-! ### Predicates -/

/-- Blanks may be put in front of a predicate. -/
theorem Grammar.Condition.blanks_append {l : Strength} {b w : List Char} {p : Predicate}
    (hb : Blanks b) (h : Condition l w p) : Condition l (b ++ w) p := by
  induction h with
  | not hc h => simpa using Condition.not (Text.blanks_append hb hc) h
  | paren hc h ht => simpa using Condition.paren (Text.blanks_append hb hc) h ht
  | has hc hk => simpa using Condition.has (Text.blanks_append hb hc) hk
  | compare hc hk ht hs hu hl =>
    simpa using Condition.compare (Text.blanks_append hb hc) hk ht hs hu hl
  | like hc hk ht hs hu hl hq =>
    simpa using Condition.like (Text.blanks_append hb hc) hk ht hs hu hl hq
  | operand _ ih => exact .operand ih
  | and _ ht hq ih => simpa using Condition.and ih ht hq
  | term _ ih => exact .term ih
  | or _ ht hq ih => simpa using Condition.or ih ht hq

theorem condition_of_leaf {s r : List Char} {p : Predicate}
    (h : outcome (leaf s) = .ok (p, r)) : ∃ w, Condition .unary w p ∧ s = w ++ r := by
  rw [outcome_leaf, bind_eq_ok] at h
  obtain ⟨⟨x, t⟩, hx, h⟩ := h
  rcases written_of_name hx with ⟨rfl, -⟩ | ⟨w, k, rfl, hk, rfl⟩
  · cases h
  · simp only at h
    split at h
    · injection h with h
      obtain ⟨rfl, rfl⟩ := Prod.mk.inj h
      exact ⟨w, .has blanks_nil hk, rfl⟩
    · rename_i o u ho
      rw [bind_eq_ok] at h
      obtain ⟨⟨l, v⟩, hl, h⟩ := h
      rw [map_eq_ok] at h
      obtain ⟨q, hq, he⟩ := h
      obtain ⟨rfl, rfl⟩ := Prod.mk.inj he
      obtain ⟨c, hc, ht⟩ := exists_blanks_trimStart t
      obtain ⟨z, hz, hu⟩ := sign_of_operator? ho
      obtain ⟨d, hd, hv⟩ := exists_blanks_trimStart u
      obtain ⟨y, hy, hw⟩ := constant_of_literal hl
      have hs : w ++ t = w ++ c ++ z ++ d ++ y ++ v := by
        rw [ht, hu, hv, hw]
        simp
      refine ⟨_, ?_, hs⟩
      -- an operator that compares and the one that matches have a rule each
      cases o with
      | some op =>
        injection hq with hq
        subst hq
        exact .compare blanks_nil hk hc hz hd hy
      | none =>
        simp only [comparison] at hq
        split at hq
        · rename_i q' hm
          injection hq with hq
          subst hq
          obtain ⟨m, hm', rfl⟩ := Option.map_eq_some_iff.mp hm
          exact .like blanks_nil hk hc hz hd hy hm'
        · cases hq

mutual

theorem condition_of_unary {s r : List Char} {p : Predicate}
    (h : outcome (unary s) = .ok (p, r)) : ∃ w, Condition .unary w p ∧ s = w ++ r := by
  obtain ⟨b, hb, hs⟩ := exists_blanks_trimStart s
  rw [outcome_unary] at h
  split at h
  · rename_i t ht
    rw [after?_eq_some] at ht
    rw [map_eq_ok] at h
    obtain ⟨⟨q, u⟩, hq, he⟩ := h
    obtain ⟨rfl, rfl⟩ := Prod.mk.inj he
    have hlen : t.length < s.length := by rw [hs, ht]; simp; omega
    obtain ⟨w, hw, rfl⟩ := condition_of_unary hq
    exact ⟨b ++ '!' :: w, .not hb hw, by rw [hs, ht]; simp⟩
  · split at h
    · rename_i t ht
      rw [after?_eq_some] at ht
      rw [bind_eq_ok] at h
      obtain ⟨⟨q, u⟩, hq, h⟩ := h
      simp only at h
      split at h
      · rename_i v hv
        rw [after?_eq_some] at hv
        injection h with h
        obtain ⟨rfl, rfl⟩ := Prod.mk.inj h
        have hlen : t.length < s.length := by rw [hs, ht]; simp; omega
        obtain ⟨w, hw, rfl⟩ := condition_of_disjunction hq
        obtain ⟨c, hc, hu⟩ := exists_blanks_trimStart u
        exact ⟨_, .paren hb hw hc, by rw [hs, ht, hu, hv]; simp⟩
      · cases h
    · obtain ⟨w, hw, ht⟩ := condition_of_leaf h
      exact ⟨b ++ w, hw.blanks_append hb, by rw [hs, ht, List.append_assoc]⟩
termination_by (s.length, 0)

theorem condition_of_conjunction {s r : List Char} {p : Predicate}
    (h : outcome (conjunction s) = .ok (p, r)) :
    ∃ w, Condition .conjunction w p ∧ s = w ++ r := by
  rw [outcome_conjunction, bind_eq_ok] at h
  obtain ⟨⟨q, t⟩, hq, h⟩ := h
  obtain ⟨w, hw, hs⟩ := condition_of_unary hq
  have hlen : t.length ≤ s.length := by rw [hs]; simp
  obtain ⟨v, hv, rfl⟩ := condition_of_conjunctionRest h (.operand hw)
  exact ⟨w ++ v, hv, by rw [hs, List.append_assoc]⟩
termination_by (s.length, 2)
decreasing_by
  · exact Prod.Lex.right _ (by decide)
  · exact Prod.Lex.right' _ hlen (by decide)

/-- The operands read so far have the text `v`. -/
theorem condition_of_conjunctionRest {s r v : List Char} {p q : Predicate}
    (h : outcome (conjunctionRest p s) = .ok (q, r)) (hp : Condition .conjunction v p) :
    ∃ w, Condition .conjunction (v ++ w) q ∧ s = w ++ r := by
  obtain ⟨b, hb, hs⟩ := exists_blanks_trimStart s
  rw [outcome_conjunctionRest] at h
  split at h
  · injection h with h
    obtain ⟨rfl, rfl⟩ := Prod.mk.inj h
    exact ⟨[], by simpa using hp, rfl⟩
  · rename_i t ht
    rw [after?_eq_some] at ht
    rw [bind_eq_ok] at h
    obtain ⟨⟨x, u⟩, hx, h⟩ := h
    have hlen : t.length < s.length := by rw [hs, ht]; simp; omega
    obtain ⟨w, hw, hu⟩ := condition_of_unary hx
    have hlen' : u.length < s.length := by
      rw [hu, List.length_append] at hlen
      omega
    obtain ⟨y, hy, rfl⟩ := condition_of_conjunctionRest h (.and hp hb hw)
    exact ⟨b ++ '&' :: w ++ y, by simpa using hy, by rw [hs, ht, hu]; simp⟩
termination_by (s.length, 1)

theorem condition_of_disjunction {s r : List Char} {p : Predicate}
    (h : outcome (disjunction s) = .ok (p, r)) :
    ∃ w, Condition .disjunction w p ∧ s = w ++ r := by
  rw [outcome_disjunction, bind_eq_ok] at h
  obtain ⟨⟨q, t⟩, hq, h⟩ := h
  obtain ⟨w, hw, hs⟩ := condition_of_conjunction hq
  have hlen : t.length ≤ s.length := by rw [hs]; simp
  obtain ⟨v, hv, rfl⟩ := condition_of_disjunctionRest h (.term hw)
  exact ⟨w ++ v, hv, by rw [hs, List.append_assoc]⟩
termination_by (s.length, 3)
decreasing_by
  · exact Prod.Lex.right _ (by decide)
  · exact Prod.Lex.right' _ hlen (by decide)

theorem condition_of_disjunctionRest {s r v : List Char} {p q : Predicate}
    (h : outcome (disjunctionRest p s) = .ok (q, r)) (hp : Condition .disjunction v p) :
    ∃ w, Condition .disjunction (v ++ w) q ∧ s = w ++ r := by
  obtain ⟨b, hb, hs⟩ := exists_blanks_trimStart s
  rw [outcome_disjunctionRest] at h
  split at h
  · injection h with h
    obtain ⟨rfl, rfl⟩ := Prod.mk.inj h
    exact ⟨[], by simpa using hp, rfl⟩
  · rename_i t ht
    rw [after?_eq_some] at ht
    rw [bind_eq_ok] at h
    obtain ⟨⟨x, u⟩, hx, h⟩ := h
    have hlen : t.length < s.length := by rw [hs, ht]; simp; omega
    obtain ⟨w, hw, hu⟩ := condition_of_conjunction hx
    have hlen' : u.length < s.length := by
      rw [hu, List.length_append] at hlen
      omega
    obtain ⟨y, hy, rfl⟩ := condition_of_disjunctionRest h (.or hp hb hw)
    exact ⟨b ++ '|' :: w ++ y, by simpa using hy, by rw [hs, ht, hu]; simp⟩
termination_by (s.length, 1)

end

end PathQuery.Query
