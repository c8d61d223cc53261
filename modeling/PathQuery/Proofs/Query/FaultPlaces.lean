import Mathlib.Data.List.Permutation
import PathQuery.Proofs.Query.CanonicalText

/-! # Where faults lie

A fault that quotes the rest of the query lies where the query could have gone on otherwise: the
text before the rest can be completed to the text of a query (`read_fault_completable`).

What was taken off the text before the fault is derived, by the soundness of the readers, and
what is still open there is closed by the rules of the grammar, from the inside to the outside
(`Completable.surround`).  That the completed text is read as it is derived needs no proof of
its own.  In a bracket the completion goes on with one more operand, whatever stands before it:
digits alone would be a place then, and perhaps too large. -/
namespace PathQuery.Query

open Text Reader Grammar

variable {α β : Type} {L M : List Char → Prop}

/-! ### Faults -/

/-- The result is a fault that quotes the rest `r`. -/
def FailsAt (x : Except Error α) (r : List Char) : Prop :=
  (∃ what, x = .error (.query (.expected what r))) ∨ x = .error (.query (.unterminated r))

theorem not_failsAt_ok (a : α) (r : List Char) : ¬ FailsAt (.ok a) r := by
  simp [FailsAt]

theorem failsAt_expected {what : Expected} {s r : List Char}
    (h : FailsAt (.error (.query (.expected what s)) : Except Error α) r) : s = r := by
  rcases h with ⟨_, he⟩ | he
  · cases he
    rfl
  · cases he

theorem failsAt_bind_iff {x : Except Error α} {g : α → Except Error β} {r : List Char} :
    FailsAt (x.bind g) r ↔ FailsAt x r ∨ ∃ a, x = .ok a ∧ FailsAt (g a) r := by
  cases x with
  | ok a => simp [Except.bind, not_failsAt_ok]
  | error e => simp [Except.bind, FailsAt]

theorem failsAt_map_iff {x : Except Error α} {g : α → β} {r : List Char} :
    FailsAt (x.map g) r ↔ FailsAt x r := by
  cases x with
  | ok a => simp [Except.map, not_failsAt_ok]
  | error e => simp [Except.map, FailsAt]

/-! ### Completions -/

/-- The part of `s` before its rest `r` can be completed to a text of the class `L`. -/
def Completable (L : List Char → Prop) (s r : List Char) : Prop :=
  ∃ p t, s = p ++ r ∧ L (p ++ t)

theorem completable_append {v t : List Char} (h : L (v ++ t)) (r : List Char) :
    Completable L (v ++ r) r :=
  ⟨v, t, rfl, h⟩

theorem completable_self {t : List Char} (h : L t) (r : List Char) : Completable L r r :=
  ⟨[], t, rfl, h⟩

/-- What is open around a completed text is closed after it. -/
theorem Completable.surround {s r : List Char} (h : Completable L s r) {v u : List Char}
    (hL : ∀ w, L w → M (v ++ (w ++ u))) : Completable M (v ++ s) r := by
  obtain ⟨p, t, rfl, ht⟩ := h
  refine ⟨v ++ p, t ++ u, (List.append_assoc ..).symm, ?_⟩
  simpa using hL _ ht

theorem Completable.after {s r : List Char} (h : Completable L s r) {v : List Char}
    (hL : ∀ w, L w → M (v ++ w)) : Completable M (v ++ s) r :=
  h.surround (u := []) fun w hw => by simpa using hL w hw

theorem Completable.mono {s r : List Char} (h : Completable L s r) (hL : ∀ w, L w → M w) :
    Completable M s r :=
  h.after (v := []) hL

/-! ### Tokens -/

/-- A string in quotes fails at its opening quote. -/
theorem failsAt_quoted {s r : List Char} (h : FailsAt (outcome (quoted s)) r) : '"' :: s = r := by
  rw [outcome_quoted] at h
  split at h
  · exact absurd h (not_failsAt_ok _ _)
  · rcases h with ⟨_, he⟩ | he
    · cases he
    · cases he
      rfl

/-- A name fails where it starts. -/
theorem failsAt_name {s r : List Char} (h : FailsAt (outcome (name s)) r) : s = r := by
  rcases hq : after? '"' s with _ | t
  · rcases ha : after? '*' s with _ | t
    · rcases s with _ | ⟨c, t⟩
      · exact failsAt_expected h
      · cases hc : Word.isNameChar c with
        | true =>
          rw [outcome_name_bare hc] at h
          exact absurd h (not_failsAt_ok _ _)
        | false =>
          rw [outcome_name_error hq ha (stops_cons hc t)] at h
          exact failsAt_expected h
    · obtain rfl := after?_eq_some.mp ha
      rw [outcome_name_star] at h
      exact absurd h (not_failsAt_ok _ _)
  · obtain rfl := after?_eq_some.mp hq
    rw [outcome_name_quote, failsAt_map_iff] at h
    exact failsAt_quoted h

/-- A literal fails where it starts. -/
theorem failsAt_literal {s r : List Char} (h : FailsAt (outcome (literal s)) r) : s = r := by
  rcases s with _ | ⟨c, t⟩
  · exact failsAt_expected h
  · by_cases hq : c = '"'
    · subst hq
      rw [outcome_literal_quote, failsAt_map_iff] at h
      exact failsAt_quoted h
    · cases hc : Word.isDelimiter c with
      | true =>
        simp only [literal, hq, hc, if_true, if_false, outcome_error] at h
        exact failsAt_expected h
      | false =>
        rw [outcome_literal_bare hc] at h
        exact absurd h (not_failsAt_ok _ _)

theorem key_a : Key ['a'] "a" := .bare (by decide) (by simp; decide)

theorem constant_a : Constant ['a'] (.bare ['a']) := .bare (by decide) (by simp; decide)

/-- The pattern of one letter compiles. -/
theorem exists_pattern_a : ∃ q, Pattern.compile? (Literal.bare ['a']).text = some q := by
  have hsome : (Regex.compile? "a").isSome = true := by decide +kernel
  obtain ⟨x, hx⟩ := Option.isSome_iff_exists.mp hsome
  exact ⟨⟨"a", x, hx⟩, Pattern.compile?_source ⟨"a", x, hx⟩⟩

/-! ### Predicates -/

/-- The texts of predicates of a strength. -/
def IsCondition (l : Strength) (w : List Char) : Prop := ∃ p, Condition l w p

theorem isCondition_a : IsCondition .unary ['a'] := ⟨_, .has blanks_nil key_a⟩

/-- A field and an operator are completed by a letter, which is a pattern too. -/
theorem isCondition_sign {w t s u : List Char} {k : String} {o : Operator} (hk : Key w k)
    (ht : Blanks t) (hs : Sign s o) (hu : Blanks u) :
    IsCondition .unary (w ++ t ++ s ++ u ++ ['a']) := by
  cases o with
  | some op => exact ⟨_, .compare blanks_nil hk ht hs hu constant_a⟩
  | none =>
    obtain ⟨q, hq⟩ := exists_pattern_a
    exact ⟨_, .like blanks_nil hk ht hs hu constant_a hq⟩

theorem not_failsAt_comparison (field : String) (o : Operator) (l : Literal) (r : List Char) :
    ¬ FailsAt (comparison field o l) r := by
  unfold comparison
  split
  · exact not_failsAt_ok _ _
  · split
    · exact not_failsAt_ok _ _
    · simp [FailsAt]

theorem completable_leaf {s r : List Char} (h : FailsAt (outcome (leaf s)) r) :
    Completable (IsCondition .unary) s r := by
  rw [outcome_leaf, failsAt_bind_iff] at h
  rcases h with h | ⟨⟨x, t⟩, hx, h⟩
  · obtain rfl := failsAt_name h
    exact completable_self isCondition_a s
  · rcases written_of_name hx with ⟨rfl, -⟩ | ⟨w, k, rfl, hk, rfl⟩
    · obtain rfl := failsAt_expected h
      exact completable_self isCondition_a s
    · simp only at h
      split at h
      · exact absurd h (not_failsAt_ok _ _)
      · rename_i o u ho
        rw [failsAt_bind_iff] at h
        rcases h with h | ⟨⟨l, v⟩, -, h⟩
        · obtain rfl := failsAt_literal h
          obtain ⟨c, hc, ht⟩ := exists_blanks_trimStart t
          obtain ⟨z, hz, hu⟩ := sign_of_operator? ho
          obtain ⟨d, hd, hv⟩ := exists_blanks_trimStart u
          have hs : w ++ t = w ++ c ++ z ++ d ++ trimStart u := by
            rw [List.append_assoc _ d, ← hv, List.append_assoc _ z, ← hu, List.append_assoc, ← ht]
          rw [hs]
          exact completable_append (isCondition_sign hk hc hz hd) _
        · rw [failsAt_map_iff] at h
          exact absurd h (not_failsAt_comparison k o l r)

mutual

theorem completable_unary {s r : List Char} (h : FailsAt (outcome (unary s)) r) :
    Completable (IsCondition .unary) s r := by
  obtain ⟨b, hb, hs⟩ := exists_blanks_trimStart s
  rw [outcome_unary] at h
  split at h
  · rename_i t ht
    rw [after?_eq_some] at ht
    rw [failsAt_map_iff] at h
    have hlen : t.length < s.length := by rw [hs, ht]; simp; omega
    rw [hs, ht, List.append_cons]
    refine (completable_unary h).after ?_
    rintro w ⟨p, hp⟩
    exact ⟨_, by simpa using Condition.not hb hp⟩
  · split at h
    · rename_i t ht
      rw [after?_eq_some] at ht
      rw [failsAt_bind_iff] at h
      have hlen : t.length < s.length := by rw [hs, ht]; simp; omega
      rw [hs, ht, List.append_cons]
      -- the fault is inside the parentheses, or is that they are not closed
      rcases h with h | ⟨⟨q, u⟩, hq, h⟩
      · refine (completable_disjunction h).surround (u := [')']) ?_
        rintro w ⟨p, hp⟩
        exact ⟨_, by simpa using Condition.paren hb hp blanks_nil⟩
      · simp only at h
        split at h
        · exact absurd h (not_failsAt_ok _ _)
        · obtain rfl := failsAt_expected h
          obtain ⟨w, hw, rfl⟩ := condition_of_disjunction hq
          obtain ⟨c, hc, hu⟩ := exists_blanks_trimStart u
          have htext : b ++ ['('] ++ (w ++ u) = b ++ ['('] ++ w ++ c ++ trimStart u := by
            rw [List.append_assoc _ c, ← hu]
            simp
          rw [htext]
          exact completable_append (t := [')']) ⟨_, by simpa using Condition.paren hb hw hc⟩ _
    · rw [hs]
      refine (completable_leaf h).after ?_
      rintro w ⟨p, hp⟩
      exact ⟨p, hp.blanks_append hb⟩
termination_by (s.length, 0)

theorem completable_conjunction {s r : List Char} (h : FailsAt (outcome (conjunction s)) r) :
    Completable (IsCondition .conjunction) s r := by
  rw [outcome_conjunction, failsAt_bind_iff] at h
  rcases h with h | ⟨⟨q, t⟩, hq, h⟩
  · exact (completable_unary h).mono fun w ⟨p, hp⟩ => ⟨p, .operand hp⟩
  · obtain ⟨w, hw, hs⟩ := condition_of_unary hq
    have hlen : t.length ≤ s.length := by rw [hs]; simp
    rw [hs]
    exact (completable_conjunctionRest h (.operand hw)).after fun y hy => hy
termination_by (s.length, 2)
decreasing_by
  · exact Prod.Lex.right _ (by decide)
  · exact Prod.Lex.right' _ hlen (by decide)

/-- The operands read so far have the text `v`. -/
theorem completable_conjunctionRest {s r v : List Char} {p : Predicate}
    (h : FailsAt (outcome (conjunctionRest p s)) r) (hp : Condition .conjunction v p) :
    Completable (fun w => IsCondition .conjunction (v ++ w)) s r := by
  obtain ⟨b, hb, hs⟩ := exists_blanks_trimStart s
  rw [outcome_conjunctionRest] at h
  split at h
  · exact absurd h (not_failsAt_ok _ _)
  · rename_i t ht
    rw [after?_eq_some] at ht
    rw [failsAt_bind_iff] at h
    have hlen : t.length < s.length := by rw [hs, ht]; simp; omega
    rw [hs, ht, List.append_cons]
    rcases h with h | ⟨⟨x, u⟩, hx, h⟩
    · refine (completable_unary h).after ?_
      rintro w ⟨q, hq⟩
      exact ⟨_, by simpa using Condition.and hp hb hq⟩
    · obtain ⟨w, hw, rfl⟩ := condition_of_unary hx
      have hlen' : u.length < s.length := by
        rw [List.length_append] at hlen
        omega
      rw [← List.append_assoc]
      exact (completable_conjunctionRest h (.and hp hb hw)).after fun y hy => by simpa using hy
termination_by (s.length, 1)

theorem completable_disjunction {s r : List Char} (h : FailsAt (outcome (disjunction s)) r) :
    Completable (IsCondition .disjunction) s r := by
  rw [outcome_disjunction, failsAt_bind_iff] at h
  rcases h with h | ⟨⟨q, t⟩, hq, h⟩
  · exact (completable_conjunction h).mono fun w ⟨p, hp⟩ => ⟨p, .term hp⟩
  · obtain ⟨w, hw, hs⟩ := condition_of_conjunction hq
    have hlen : t.length ≤ s.length := by rw [hs]; simp
    rw [hs]
    exact (completable_disjunctionRest h (.term hw)).after fun y hy => hy
termination_by (s.length, 3)
decreasing_by
  · exact Prod.Lex.right _ (by decide)
  · exact Prod.Lex.right' _ hlen (by decide)

theorem completable_disjunctionRest {s r v : List Char} {p : Predicate}
    (h : FailsAt (outcome (disjunctionRest p s)) r) (hp : Condition .disjunction v p) :
    Completable (fun w => IsCondition .disjunction (v ++ w)) s r := by
  obtain ⟨b, hb, hs⟩ := exists_blanks_trimStart s
  rw [outcome_disjunctionRest] at h
  split at h
  · exact absurd h (not_failsAt_ok _ _)
  · rename_i t ht
    rw [after?_eq_some] at ht
    rw [failsAt_bind_iff] at h
    have hlen : t.length < s.length := by rw [hs, ht]; simp; omega
    rw [hs, ht, List.append_cons]
    rcases h with h | ⟨⟨x, u⟩, hx, h⟩
    · refine (completable_conjunction h).after ?_
      rintro w ⟨q, hq⟩
      exact ⟨_, by simpa using Condition.or hp hb hq⟩
    · obtain ⟨w, hw, rfl⟩ := condition_of_conjunction hx
      have hlen' : u.length < s.length := by
        rw [List.length_append] at hlen
        omega
      rw [← List.append_assoc]
      exact (completable_disjunctionRest h (.or hp hb hw)).after fun y hy => by simpa using hy
termination_by (s.length, 1)

end

/-! ### Brackets and items -/

/-- The texts of items. -/
def IsItem (first : Bool) (w : List Char) : Prop := ∃ st, Item first w st

/-- With one more operand, a bracket holds no place. -/
theorem isItem_bracket {w t : List Char} {p : Predicate} (h : Condition .disjunction w p)
    (ht : Blanks t) (first : Bool) : IsItem first ('[' :: (w ++ t ++ ['|', 'a', ']'])) := by
  have hor : Condition .disjunction (w ++ t ++ ['|', 'a']) (.or p (.has "a")) :=
    .or h ht (.operand (.has blanks_nil key_a))
  -- inside a place there is no bar
  have hplace : ∀ ds, ¬ Ordinal (w ++ t ++ ['|', 'a'] ++ []) ds := by
    intro ds hds
    have hbar := (ordinal_chars hds).2 '|' (by simp)
    exact absurd hbar (by decide)
  have hitem := @Item.bracket first _ _ (.filter hor blanks_nil hplace)
  exact ⟨_, by simpa using hitem⟩

theorem completable_bracket {s r : List Char} (h : FailsAt (outcome (selector s)) r)
    (first : Bool) : Completable (IsItem first) ('[' :: s) r := by
  rw [outcome_selector] at h
  split at h
  · split at h
    · exact absurd h (not_failsAt_ok _ _)
    · simp [FailsAt] at h
  · rw [outcome_disjunction_trimStart, failsAt_bind_iff] at h
    rcases h with h | ⟨⟨p, u⟩, hp, h⟩
    · refine (completable_disjunction h).surround (v := ['[']) (u := ['|', 'a', ']']) ?_
      rintro w ⟨p, hp⟩
      simpa using isItem_bracket hp blanks_nil first
    · simp only at h
      split at h
      · exact absurd h (not_failsAt_ok _ _)
      · obtain rfl := failsAt_expected h
        obtain ⟨w, hw, rfl⟩ := condition_of_disjunction hp
        obtain ⟨c, hc, hu⟩ := exists_blanks_trimStart u
        have hs : '[' :: (w ++ u) = '[' :: (w ++ c) ++ trimStart u := by
          rw [List.cons_append, List.append_assoc, ← hu]
        rw [hs]
        exact completable_append (t := ['|', 'a', ']']) (isItem_bracket hw hc first) _

/-- Where a name was expected, a letter is one. -/
theorem completable_name {s r : List Char} (h : FailsAt (nameStep s) r) (first : Bool) :
    Completable (IsItem first) (lead first ++ s) r := by
  rw [nameStep, failsAt_map_iff] at h
  obtain rfl := failsAt_name h
  exact completable_append ⟨_, .descend key_a⟩ s

/-- An item that is not the first may fail before it starts: no point and no bracket is
there. -/
theorem completable_item {query s r : List Char} {first : Bool}
    (h : FailsAt (outcome (item query first s)) r) :
    first = false ∧ s = r ∨ Completable (IsItem first) s r := by
  rw [outcome_item] at h
  split at h
  · rename_i t _ ht
    rw [afterPoints?_eq_some] at ht
    rw [failsAt_bind_iff] at h
    rcases h with h | ⟨⟨x, u⟩, -, h⟩
    · obtain rfl := failsAt_name h
      rw [ht]
      exact .inr (completable_append (v := ['.', '.']) ⟨_, .search key_a⟩ _)
    · cases x with
      | wildcard => simp [FailsAt] at h
      | key k => exact absurd h (not_failsAt_ok _ _)
  · rename_i t _ ht
    rw [after?_eq_some] at ht
    rw [ht]
    exact .inr (completable_bracket h first)
  · split at h
    · rename_i hfirst
      subst hfirst
      exact .inr (completable_name h true)
    · rename_i hfirst
      obtain rfl : first = false := Bool.eq_false_iff.mpr hfirst
      split at h
      · exact .inl ⟨rfl, failsAt_expected h⟩
      · rename_i t ht
        rw [after?_eq_some] at ht
        rw [ht]
        exact .inr (completable_name h false)

/-! ### Queries -/

theorem completable_further {query s r : List Char} (h : FailsAt (items query false s) r) :
    Completable (fun w => ∃ ss, Further w ss) s r := by
  by_cases hne : s = []
  · rw [hne, items_nil] at h
    exact absurd h (not_failsAt_ok _ _)
  · rw [items_of_ne_nil query false hne, failsAt_bind_iff] at h
    rcases h with h | ⟨⟨st, v⟩, hst, h⟩
    · rcases completable_item h with ⟨-, rfl⟩ | hitem
      · -- no item starts here, so the query may end here
        exact completable_self ⟨[], .nil⟩ s
      · exact hitem.mono fun w ⟨st, hw⟩ => ⟨[st], by simpa using Further.cons hw .nil⟩
    · rw [failsAt_map_iff] at h
      obtain ⟨w, hw, hs⟩ := item_of_item hst
      have hlen : v.length < s.length := by
        have hpos := List.length_pos_iff.mpr (item_ne_nil hw)
        rw [hs, List.length_append]
        omega
      rw [hs]
      exact (completable_further h).after fun y ⟨ss, hy⟩ => ⟨_, .cons hw hy⟩
termination_by s.length

theorem completable_items {query s r : List Char} (h : FailsAt (items query true s) r) :
    Completable (fun w => ∃ ss, Items w ss) s r := by
  by_cases hne : s = []
  · rw [hne, items_nil] at h
    exact absurd h (not_failsAt_ok _ _)
  · rw [items_of_ne_nil query true hne, failsAt_bind_iff] at h
    rcases h with h | ⟨⟨st, v⟩, hst, h⟩
    · rcases completable_item h with ⟨hfirst, -⟩ | hitem
      · cases hfirst
      · exact hitem.mono fun w ⟨st, hw⟩ => ⟨[st], by simpa using Items.mk hw .nil⟩
    · rw [failsAt_map_iff] at h
      obtain ⟨w, hw, rfl⟩ := item_of_item hst
      exact (completable_further h).after fun y ⟨ss, hy⟩ => ⟨_, .mk hw hy⟩

theorem readTrimmed_eq_map (s : List Char) :
    readTrimmed s = (items s true (dropPoint s)).map Query.mk := by
  unfold readTrimmed
  cases items s true (dropPoint s) <;> rfl

theorem completable_readTrimmed {s r : List Char} (h : FailsAt (readTrimmed s) r) :
    Completable (fun w => ∃ q, Accepts w q) s r := by
  rw [readTrimmed_eq_map, failsAt_map_iff] at h
  rcases dropPoint_cases s with hs | ⟨hs, hdots⟩
  · rw [hs] at h
    exact (completable_items h).mono fun w ⟨ss, hw⟩ => ⟨⟨ss⟩, .inr (.plain hw)⟩
  · obtain ⟨p, t, hp, ss, ht⟩ := completable_items h
    refine ⟨'.' :: p, ?_⟩
    rcases p with _ | ⟨c, p⟩
    · -- the point is all that stands before the fault, and is a query by itself
      refine ⟨[], ?_, ⟨[]⟩, .inl ⟨.inr rfl, rfl⟩⟩
      rw [hs, hp, List.nil_append, List.singleton_append]
    · have hc : c ≠ '.' := by
        rintro rfl
        rw [hs, hp] at hdots
        exact hdots ⟨p ++ r, rfl⟩
      have hdots' : ¬ ['.', '.'] <+: '.' :: (c :: p ++ t) := by
        rintro ⟨u, hu⟩
        simp only [List.cons_append, List.nil_append, List.cons.injEq, true_and] at hu
        exact hc hu.1.symm
      refine ⟨t, ?_, ⟨ss⟩, .inr (.pointed hdots' ht)⟩
      rw [hs, hp, List.cons_append, List.cons_append, List.cons_append]

/-- A text that is rejected with a fault that quotes a rest ends in that rest, and the part
before the rest is the start of a text that is read as a query. -/
theorem read_fault_completable {s : String} {r : List Char}
    (h : (∃ what, read s = .error (.query (.expected what r))) ∨
      read s = .error (.query (.unterminated r))) :
    ∃ p, trim s.toList = p ++ r ∧ ∃ t q, read (String.ofList (p ++ t)) = .ok q := by
  have hfault : FailsAt (readTrimmed (trim s.toList)) r := h
  obtain ⟨p, t, hp, q, hq⟩ := completable_readTrimmed hfault
  refine ⟨p, hp, t, q, ?_⟩
  rw [read, String.toList_ofList, trim_of_accepts hq]
  exact readTrimmed_eq_ok_iff.mpr hq

/-- The digits before this fault would be a place if the bracket were closed there. -/
theorem read_fault_completable_bracket :
    read " a[99 x" = .error (.query (.expected .closingBracket ['x'])) ∧
      ∃ p, trim " a[99 x".toList = p ++ ['x'] ∧ ∃ t q, read (String.ofList (p ++ t)) = .ok q := by
  have hread : read " a[99 x" = .error (.query (.expected .closingBracket ['x'])) := by cbv
  exact ⟨hread, read_fault_completable (.inl ⟨_, hread⟩)⟩

end PathQuery.Query
