import PathQuery.Proofs.Query.Tokens

/-! # What is derived is read

A text that the grammar derives is read back whole, as the part of a query it is derived
for, whatever follows it, as long as what follows closes it (`ReadWhole`).  A predicate
ends before a sign that joins it to another or closes a bracket around it; an item ends
before a point, before a bracket or with the text. -/
namespace PathQuery.Query

open Text Reader Grammar

/-! ### What follows a predicate -/

/-- After blanks, one of the characters `cs` follows. -/
def Closed (cs : List Char) (r : List Char) : Prop := ∃ c ∈ cs, ∃ t, trimStart r = c :: t

/-- The characters that may follow an operand. -/
def closers : List Char := ['&', '|', ')', ']']

theorem closed_append {cs b t : List Char} {c : Char} (hb : Blanks b) (hc : c ∈ cs)
    (hn : isBlank c = false) : Closed cs (b ++ c :: t) :=
  ⟨c, hc, t, by rw [trimStart_append hb, trimStart_cons hn]⟩

theorem Closed.mono {cs ds r : List Char} (h : Closed cs r) (hcs : cs ⊆ ds) : Closed ds r := by
  obtain ⟨c, hc, t, ht⟩ := h
  exact ⟨c, hcs hc, t, ht⟩

/-- A fact about the closing characters is checked one by one. -/
theorem forall_closers {P : Char → Prop} (h : P '&' ∧ P '|' ∧ P ')' ∧ P ']') {c : Char}
    (hc : c ∈ closers) : P c := by
  simp only [closers, List.mem_cons, List.not_mem_nil, or_false] at hc
  obtain ⟨hand, hor, hparen, hbracket⟩ := h
  rcases hc with rfl | rfl | rfl | rfl <;> assumption

/-- Before what follows a predicate, a bare name and a bare literal end. -/
theorem Closed.front {r : List Char} (h : Closed closers r) {c : Char} (hc : c ∈ r.head?) :
    isBlank c = true ∨ c ∈ closers := by
  obtain ⟨d, hd, t, ht⟩ := h
  obtain ⟨b, hb, hr⟩ := exists_blanks_trimStart r
  rw [ht] at hr
  subst hr
  rcases b with _ | ⟨e, b⟩
  · obtain rfl : d = c := by simpa using hc
    exact .inr hd
  · obtain rfl : e = c := by simpa using hc
    exact .inl (hb e List.mem_cons_self)

theorem Closed.stops_name {r : List Char} (h : Closed closers r) : Stops Word.isNameChar r := by
  intro c hc
  rcases h.front hc with hb | hm
  · exact Word.isNameChar_of_isBlank hb
  · exact forall_closers (P := fun c => Word.isNameChar c = false) (by decide) hm

theorem Closed.delimiter {r : List Char} (h : Closed closers r) :
    ∀ c ∈ r.head?, Word.isDelimiter c = true := by
  intro c hc
  rcases h.front hc with hb | hm
  · exact Word.isDelimiter_of_isBlank hb
  · exact forall_closers (P := fun c => Word.isDelimiter c = true) (by decide) hm

theorem Closed.no_operator {r : List Char} (h : Closed closers r) :
    operator? (trimStart r) = none := by
  obtain ⟨c, hc, t, ht⟩ := h
  apply operator?_eq_none
  rw [ht]
  rintro d hd
  obtain rfl : c = d := by simpa using hd
  exact forall_closers (P := fun c => c ∉ signFronts) (by decide) hc

/-- A sign other than the one that follows is not there. -/
theorem Closed.after? {cs r : List Char} (h : Closed cs r) {c : Char} (hc : c ∉ cs) :
    after? c (trimStart r) = none := by
  obtain ⟨d, hd, t, ht⟩ := h
  rw [ht]
  exact after?_of_ne (fun he : d = c => hc (he ▸ hd)) t

/-! ### Predicates -/

/-- A text is read whole as a predicate of a strength.  Of a conjunction or disjunction the
reader may find more operands in what follows, so what is said is that it goes on from
here with the predicate as its first operands. -/
def ReadWhole : Strength → List Char → Predicate → Prop
  | .unary, w, p => ∀ r, Closed closers r → outcome (unary (w ++ r)) = .ok (p, r)
  | .conjunction, w, p =>
    ∀ r, Closed closers r → outcome (conjunction (w ++ r)) = outcome (conjunctionRest p r)
  | .disjunction, w, p =>
    ∀ r, Closed ['|', ')', ']'] r →
      outcome (disjunction (w ++ r)) = outcome (disjunctionRest p r)

theorem conjunctionRest_closed {r : List Char} (h : Closed ['|', ')', ']'] r) (p : Predicate) :
    outcome (conjunctionRest p r) = .ok (p, r) := by
  rw [outcome_conjunctionRest, h.after? (by decide)]

theorem disjunctionRest_closed {r : List Char} (h : Closed [')', ']'] r) (p : Predicate) :
    outcome (disjunctionRest p r) = .ok (p, r) := by
  rw [outcome_disjunctionRest, h.after? (by decide)]

/-- A key in front of a text, and blanks before it, lead to a leaf. -/
theorem outcome_unary_of_key {b w v : List Char} {k : String} (hb : Blanks b) (hk : Key w k) :
    outcome (unary (b ++ w ++ v)) = outcome (leaf (w ++ v)) := by
  obtain ⟨c, t, rfl, hc⟩ := key_front hk
  have hblank : isBlank c = false := by
    rcases hc with rfl | hc
    · decide
    · exact Word.not_isBlank_of_isNameChar hc
  have hnot : c ≠ '!' := by
    rintro rfl
    exact absurd hc (by decide)
  have hparen : c ≠ '(' := by
    rintro rfl
    exact absurd hc (by decide)
  have htrim : trimStart (b ++ c :: t ++ v) = c :: t ++ v := by
    rw [List.append_assoc, trimStart_append hb, List.cons_append, trimStart_cons hblank]
  rw [outcome_unary, htrim, List.cons_append, after?_of_ne hnot, after?_of_ne hparen]

/-- What is read of a leaf with an operator. -/
theorem outcome_leaf_of_sign {w t s u v r : List Char} {k : String} {o : Operator} {l : Literal}
    (hk : Key w k) (ht : Blanks t) (hs : Sign s o) (hu : Blanks u) (hl : Constant v l)
    (hr : Closed closers r) :
    outcome (leaf (w ++ (t ++ (s ++ (u ++ (v ++ r)))))) =
      (comparison k o l).map fun p => (p, r) := by
  have hstop : Stops Word.isNameChar (t ++ (s ++ (u ++ (v ++ r)))) := by
    rcases t with _ | ⟨c, t⟩
    · cases hs <;> exact stops_cons (by decide) _
    · exact stops_cons (Word.isNameChar_of_isBlank (ht c List.mem_cons_self)) _
  have hsign : trimStart (t ++ (s ++ (u ++ (v ++ r)))) = s ++ (u ++ (v ++ r)) := by
    rw [trimStart_append ht]
    cases hs <;> exact trimStart_cons (by decide) _
  obtain ⟨c, y, rfl, hc⟩ := constant_front hl
  have hc' : c ≠ '=' ∧ c ≠ '>' := by
    refine ⟨?_, ?_⟩ <;> rintro rfl <;> exact absurd hc (by decide)
  have hblank : isBlank c = false := by
    rcases hc with rfl | hc
    · decide
    · exact Word.not_isBlank_of_not_isDelimiter hc
  -- what follows the sign does not make it a longer one
  have hlong : ∀ d ∈ (u ++ (c :: y ++ r)).head?, d ≠ '=' ∧ d ≠ '>' := by
    rintro d hd
    rcases u with _ | ⟨e, u⟩
    · obtain rfl : c = d := by simpa using hd
      exact hc'
    · obtain rfl : e = d := by simpa using hd
      have he := hu e List.mem_cons_self
      refine ⟨?_, ?_⟩ <;> rintro rfl <;> exact absurd he (by decide)
  have hliteral : trimStart (u ++ (c :: y ++ r)) = c :: y ++ r := by
    rw [trimStart_append hu, List.cons_append, trimStart_cons hblank]
  rw [outcome_leaf, name_of_key hk hstop]
  simp only [Except.bind, hsign, operator?_of_sign hs hlong]
  rw [hliteral, literal_of_constant hl hr.delimiter]

theorem readWhole_of_condition {l : Strength} {w : List Char} {p : Predicate}
    (h : Condition l w p) : ReadWhole l w p := by
  induction h with
  | not hb _ ih =>
    rintro r hr
    rw [List.append_assoc, outcome_unary, trimStart_append hb, List.cons_append,
      trimStart_cons (by decide), after?_self]
    simp only [ih r hr, Except.map]
  | @paren b w t p hb _ ht ih =>
    rintro r -
    -- the closing parenthesis ends what is inside, whatever follows it
    have hclose : Closed [')', ']'] (t ++ ')' :: r) := closed_append ht (by decide) (by decide)
    have hinner : outcome (disjunction (w ++ (t ++ ')' :: r))) = .ok (p, t ++ ')' :: r) := by
      rw [ih _ (hclose.mono (by simp)), disjunctionRest_closed hclose]
    have htext : b ++ '(' :: (w ++ t ++ [')']) ++ r = b ++ '(' :: (w ++ (t ++ ')' :: r)) := by
      simp
    rw [htext, outcome_unary, trimStart_append hb, trimStart_cons (by decide),
      after?_of_ne (by decide), after?_self]
    simp only [hinner, Except.bind, trimStart_append ht]
    rw [trimStart_cons (by decide), after?_self]
  | has hb hk =>
    rintro r hr
    rw [outcome_unary_of_key hb hk, outcome_leaf, name_of_key hk hr.stops_name]
    simp only [Except.bind, hr.no_operator]
  | @compare b w t s u v k op l hb hk ht hs hu hl =>
    rintro r hr
    have htext : b ++ w ++ t ++ s ++ u ++ v ++ r =
        b ++ w ++ (t ++ (s ++ (u ++ (v ++ r)))) := by simp
    have hleaf := outcome_leaf_of_sign hk ht hs hu hl hr
    rw [htext, outcome_unary_of_key hb hk]
    simpa [comparison, Except.map] using hleaf
  | @like b w t s u v k l q hb hk ht hs hu hl hq =>
    rintro r hr
    have htext : b ++ w ++ t ++ s ++ u ++ v ++ r =
        b ++ w ++ (t ++ (s ++ (u ++ (v ++ r)))) := by simp
    have hleaf := outcome_leaf_of_sign hk ht hs hu hl hr
    rw [htext, outcome_unary_of_key hb hk]
    simpa [comparison, Predicate.matching?, hq, Except.map] using hleaf
  | operand _ ih =>
    rintro r hr
    rw [outcome_conjunction, ih r hr]
    rfl
  | @and w t v p q _ ht _ ihp ihq =>
    rintro r hr
    have htext : w ++ t ++ '&' :: v ++ r = w ++ (t ++ '&' :: (v ++ r)) := by simp
    rw [htext, ihp _ (closed_append ht (by decide) (by decide)), outcome_conjunctionRest,
      trimStart_append ht, trimStart_cons (by decide), after?_self]
    simp only [ihq r hr, Except.bind]
  | term _ ih =>
    rintro r hr
    rw [outcome_disjunction, ih r (hr.mono (by decide)), conjunctionRest_closed hr]
    rfl
  | @or w t v p q _ ht _ ihp ihq =>
    rintro r hr
    have htext : w ++ t ++ '|' :: v ++ r = w ++ (t ++ '|' :: (v ++ r)) := by simp
    rw [htext, ihp _ (closed_append ht (by decide) (by decide)), outcome_disjunctionRest,
      trimStart_append ht, trimStart_cons (by decide), after?_self]
    simp only [ihq r (hr.mono (by decide)), conjunctionRest_closed hr, Except.bind]

/-- A whole predicate before the end of a bracket is read back. -/
theorem disjunction_of_condition {w r : List Char} {p : Predicate}
    (h : Condition .disjunction w p) (hr : Closed [')', ']'] r) :
    outcome (disjunction (w ++ r)) = .ok (p, r) := by
  rw [readWhole_of_condition h r (hr.mono (by simp)), disjunctionRest_closed hr]

end PathQuery.Query
