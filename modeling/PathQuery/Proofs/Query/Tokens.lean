import PathQuery.Proofs.Query.Grammar
import PathQuery.Proofs.Query.Outcome

/-! # Tokens

The readers of strings in quotes, names, operators, literals and places against the rules
of the grammar.  For each there are two facts.  What it takes off a text is derived
(`key_of_name`, `constant_of_literal` and so on); and it takes off a derived text whole,
provided the text after it does not go on with the same token (`name_of_key` and so on). -/
namespace PathQuery.Query

open Text Reader Grammar

/-! ### Strings in quotes -/

/-- The backslash that stands before the next character, if there is one. -/
def backslash (escaped : Bool) : List Char := if escaped then ['\\'] else []

theorem inside_of_readRest? {e : Bool} {s x r : List Char}
    (h : Quoted.readRest? e s = some (x, r)) :
    ∃ w, Inside (backslash e ++ w) x ∧ s = w ++ '"' :: r := by
  induction s generalizing e x with
  | nil => cases e <;> simp [Quoted.readRest?] at h
  | cons c s ih =>
    cases e with
    | true =>
      obtain ⟨⟨y, t⟩, hy, he⟩ := Option.map_eq_some_iff.mp h
      obtain ⟨rfl, rfl⟩ := Prod.mk.inj he
      obtain ⟨w, hw, rfl⟩ := ih hy
      exact ⟨c :: w, .escaped c hw, rfl⟩
    | false =>
      simp only [Quoted.readRest?] at h
      split at h
      · subst c
        obtain ⟨rfl, rfl⟩ := Prod.mk.inj (Option.some.inj h)
        exact ⟨[], .nil, rfl⟩
      · rename_i hq
        split at h
        · subst c
          obtain ⟨w, hw, rfl⟩ := ih h
          exact ⟨'\\' :: w, hw, rfl⟩
        · rename_i hb
          obtain ⟨⟨y, t⟩, hy, he⟩ := Option.map_eq_some_iff.mp h
          obtain ⟨rfl, rfl⟩ := Prod.mk.inj he
          obtain ⟨w, hw, rfl⟩ := ih hy
          exact ⟨c :: w, .plain hq hb hw, rfl⟩

theorem readRest?_of_inside {w x : List Char} (h : Inside w x) (r : List Char) :
    Quoted.readRest? false (w ++ '"' :: r) = some (x, r) := by
  induction h with
  | nil => simp [Quoted.readRest?]
  | plain hq hb _ ih => simp [Quoted.readRest?, hq, hb, ih]
  | escaped c _ ih => simp [Quoted.readRest?, ih]

theorem outcome_quoted (s : List Char) :
    outcome (quoted s) =
      match Quoted.readRest? false s with
      | some x => .ok x
      | none => .error (.query (.unterminated ('"' :: s))) := by
  unfold quoted Quoted.read?
  split
  · rename_i h
    split at h
    · rename_i hr
      injection h with h
      simp [hr, ← h]
    · cases h
  · rename_i h
    split at h
    · cases h
    · rename_i hr
      simp [hr]

/-- A string in quotes is what the reader takes after an opening quote. -/
theorem quotation_of_quoted {s x r : List Char} (h : outcome (quoted s) = .ok (x, r)) :
    ∃ w, Quotation w x ∧ '"' :: s = w ++ r := by
  rw [outcome_quoted] at h
  split at h
  · rename_i y hy
    injection h with h
    subst h
    obtain ⟨w, hw, rfl⟩ := inside_of_readRest? hy
    exact ⟨'"' :: w ++ ['"'], .mk hw, by simp⟩
  · cases h

theorem quoted_of_quotation {w x : List Char} (h : Quotation w x) :
    ∃ v, w = '"' :: v ∧ ∀ r, outcome (quoted (v ++ r)) = .ok (x, r) := by
  obtain @⟨v, _, hv⟩ := h
  refine ⟨v ++ ['"'], rfl, fun r => ?_⟩
  rw [outcome_quoted, List.append_assoc, List.singleton_append, readRest?_of_inside hv]

/-! ### Names -/

theorem outcome_name_quote (r : List Char) :
    outcome (name ('"' :: r)) =
      (outcome (quoted r)).map fun x => (.key (String.ofList x.1), x.2) := by
  simp only [name, if_true]
  cases quoted r <;> rfl

theorem outcome_name_star (r : List Char) : outcome (name ('*' :: r)) = .ok (.wildcard, r) := by
  simp [name]

theorem outcome_name_bare {c : Char} {r : List Char} (hc : Word.isNameChar c = true) :
    outcome (name (c :: r)) =
      .ok (.key (String.ofList (c :: r.takeWhile Word.isNameChar)),
        r.dropWhile Word.isNameChar) := by
  have hq : c ≠ '"' := by
    rintro rfl
    exact absurd hc (by decide)
  have ha : c ≠ '*' := by
    rintro rfl
    exact absurd hc (by decide)
  simp [name, hq, ha, hc, skipWhile]

/-- Where no name is read. -/
theorem outcome_name_error {s : List Char} (hq : after? '"' s = none) (ha : after? '*' s = none)
    (hs : Stops Word.isNameChar s) :
    outcome (name s) = .error (.query (.expected .fieldName s)) := by
  cases s with
  | nil => rfl
  | cons c r =>
    have hq' : c ≠ '"' := by
      rintro rfl
      simp at hq
    have ha' : c ≠ '*' := by
      rintro rfl
      simp at ha
    simp [name, hq', ha', hs c rfl]

/-- What a name is: a key that is derived, or the wildcard. -/
theorem written_of_name {s r : List Char} {x : Written} (h : outcome (name s) = .ok (x, r)) :
    (x = .wildcard ∧ s = '*' :: r) ∨ ∃ w k, x = .key k ∧ Key w k ∧ s = w ++ r := by
  rcases hq : after? '"' s with _ | t
  · rcases ha : after? '*' s with _ | t
    · rcases s with _ | ⟨c, t⟩
      · cases h
      · by_cases hc : Word.isNameChar c = true
        · rw [outcome_name_bare hc] at h
          injection h with h
          obtain ⟨rfl, rfl⟩ := Prod.mk.inj h
          refine .inr ⟨_, _, rfl, .bare (List.cons_ne_nil _ _) ?_, ?_⟩
          · intro d hd
            rcases List.mem_cons.mp hd with rfl | hd
            · exact hc
            · exact List.mem_takeWhile_imp hd
          · rw [List.cons_append, List.takeWhile_append_dropWhile]
        · rw [outcome_name_error hq ha (stops_cons (Bool.eq_false_iff.mpr hc) t)] at h
          cases h
    · obtain rfl := after?_eq_some.mp ha
      rw [outcome_name_star] at h
      injection h with h
      obtain ⟨rfl, rfl⟩ := Prod.mk.inj h
      exact .inl ⟨rfl, rfl⟩
  · obtain rfl := after?_eq_some.mp hq
    rw [outcome_name_quote, map_eq_ok] at h
    obtain ⟨⟨y, u⟩, hx, he⟩ := h
    obtain ⟨rfl, rfl⟩ := Prod.mk.inj he
    obtain ⟨w, hw, ht⟩ := quotation_of_quoted hx
    exact .inr ⟨w, _, rfl, .quoted hw, ht⟩

theorem name_of_key {w r : List Char} {k : String} (h : Key w k) (hr : Stops Word.isNameChar r) :
    outcome (name (w ++ r)) = .ok (.key k, r) := by
  cases h with
  | bare hne hw =>
    obtain ⟨c, v, rfl⟩ := List.exists_cons_of_ne_nil hne
    have hv : ∀ d ∈ v, Word.isNameChar d = true := fun d hd => hw d (List.mem_cons_of_mem _ hd)
    rw [List.cons_append, outcome_name_bare (hw c List.mem_cons_self), takeWhile_run hv hr,
      dropWhile_run hv hr]
  | quoted hq =>
    obtain ⟨v, rfl, hv⟩ := quoted_of_quotation hq
    rw [List.cons_append, outcome_name_quote, hv]
    rfl

/-- A key starts with a quote or a name character. -/
theorem key_front {w : List Char} {k : String} (h : Key w k) :
    ∃ c v, w = c :: v ∧ (c = '"' ∨ Word.isNameChar c = true) := by
  cases h with
  | bare hne hw =>
    obtain ⟨c, v, rfl⟩ := List.exists_cons_of_ne_nil hne
    exact ⟨c, v, rfl, .inr (hw c List.mem_cons_self)⟩
  | quoted hq =>
    obtain ⟨v, rfl, -⟩ := quoted_of_quotation hq
    exact ⟨'"', v, rfl, .inl rfl⟩

/-! ### Literals -/

theorem outcome_literal_quote (r : List Char) :
    outcome (literal ('"' :: r)) = (outcome (quoted r)).map fun x => (.quoted x.1, x.2) := by
  simp only [literal, if_true]
  cases quoted r <;> rfl

theorem outcome_literal_bare {c : Char} {r : List Char} (hc : Word.isDelimiter c = false) :
    outcome (literal (c :: r)) =
      .ok (.bare (c :: r.takeWhile fun d => !Word.isDelimiter d),
        r.dropWhile fun d => !Word.isDelimiter d) := by
  have hq : c ≠ '"' := by
    rintro rfl
    exact absurd hc (by decide)
  simp [literal, hq, hc, skipWhile]

theorem constant_of_literal {s r : List Char} {l : Literal} (h : outcome (literal s) = .ok (l, r)) :
    ∃ w, Constant w l ∧ s = w ++ r := by
  rcases s with _ | ⟨c, t⟩
  · cases h
  · by_cases hq : c = '"'
    · subst hq
      rw [outcome_literal_quote, map_eq_ok] at h
      obtain ⟨⟨y, u⟩, hx, he⟩ := h
      obtain ⟨rfl, rfl⟩ := Prod.mk.inj he
      obtain ⟨w, hw, ht⟩ := quotation_of_quoted hx
      exact ⟨w, .quoted hw, ht⟩
    · cases hc : Word.isDelimiter c with
      | true => simp [literal, hq, hc] at h
      | false =>
        rw [outcome_literal_bare hc] at h
        injection h with h
        obtain ⟨rfl, rfl⟩ := Prod.mk.inj h
        refine ⟨_, .bare (List.cons_ne_nil _ _) ?_, ?_⟩
        · intro d hd
          rcases List.mem_cons.mp hd with rfl | hd
          · exact hc
          · simpa using List.mem_takeWhile_imp hd
        · rw [List.cons_append, List.takeWhile_append_dropWhile]

theorem literal_of_constant {w r : List Char} {l : Literal} (h : Constant w l)
    (hr : ∀ c ∈ r.head?, Word.isDelimiter c = true) :
    outcome (literal (w ++ r)) = .ok (l, r) := by
  cases h with
  | bare hne hw =>
    obtain ⟨c, v, rfl⟩ := List.exists_cons_of_ne_nil hne
    have hv : ∀ d ∈ v, (!Word.isDelimiter d) = true := fun d hd => by
      simp [hw d (List.mem_cons_of_mem _ hd)]
    have hr' : Stops (fun d => !Word.isDelimiter d) r := fun d hd => by simp [hr d hd]
    rw [List.cons_append, outcome_literal_bare (hw c List.mem_cons_self), takeWhile_run hv hr',
      dropWhile_run hv hr']
  | quoted hq =>
    obtain ⟨v, rfl, hv⟩ := quoted_of_quotation hq
    rw [List.cons_append, outcome_literal_quote, hv]
    rfl

/-- A literal starts with a quote or a character that ends no literal. -/
theorem constant_front {w : List Char} {l : Literal} (h : Constant w l) :
    ∃ c v, w = c :: v ∧ (c = '"' ∨ Word.isDelimiter c = false) := by
  cases h with
  | bare hne hw =>
    obtain ⟨c, v, rfl⟩ := List.exists_cons_of_ne_nil hne
    exact ⟨c, v, rfl, .inr (hw c List.mem_cons_self)⟩
  | quoted hq =>
    obtain ⟨v, rfl, -⟩ := quoted_of_quotation hq
    exact ⟨'"', v, rfl, .inl rfl⟩

/-! ### Operators -/

theorem afterWord?_eq_some {w s : List Char} {r : NoLonger s} :
    afterWord? w s = some r ↔ s = w ++ r.1 := by
  induction w generalizing s with
  | nil => simp [afterWord?, Subtype.ext_iff]
  | cons c w ih =>
    cases s with
    | nil => simp [afterWord?]
    | cons d s =>
      by_cases hc : c = d
      · subst hc
        simp only [afterWord?, if_true, Option.map_eq_some_iff, ih, List.cons_append,
          List.cons.injEq, true_and]
        constructor
        · rintro ⟨t, ht, rfl⟩
          exact ht
        · intro hs
          have hlen : r.1.length ≤ s.length := by
            have := congrArg List.length hs
            rw [List.length_append] at this
            omega
          exact ⟨⟨r.1, hlen⟩, hs, rfl⟩
      · simp [afterWord?, hc, Ne.symm hc]

theorem mem_of_operatorOf? {ops : List (List Char × Operator)} {s : List Char} {o : Operator}
    {r : NoLonger s} (h : operatorOf? ops s = some (o, r)) : ∃ w, (w, o) ∈ ops ∧ s = w ++ r.1 := by
  induction ops with
  | nil => cases h
  | cons x ops ih =>
    obtain ⟨w, q⟩ := x
    simp only [operatorOf?] at h
    split at h
    · rename_i t ht
      obtain ⟨rfl, rfl⟩ := Prod.mk.inj (Option.some.inj h)
      exact ⟨w, List.mem_cons_self, afterWord?_eq_some.mp ht⟩
    · obtain ⟨v, hv, hs⟩ := ih h
      exact ⟨v, List.mem_cons_of_mem _ hv, hs⟩

theorem sign_of_operator? {s r : List Char} {o : Operator} (h : operator? s = some (o, r)) :
    ∃ w, Sign w o ∧ s = w ++ r := by
  obtain ⟨⟨q, t⟩, hq, he⟩ := Option.map_eq_some_iff.mp h
  obtain ⟨rfl, rfl⟩ := Prod.mk.inj he
  obtain ⟨w, hw, hs⟩ := mem_of_operatorOf? hq
  refine ⟨w, ?_, hs⟩
  simp only [operators, List.mem_cons, Prod.mk.injEq, List.not_mem_nil, or_false] at hw
  rcases hw with ⟨rfl, rfl⟩ | ⟨rfl, rfl⟩ | ⟨rfl, rfl⟩ | ⟨rfl, rfl⟩ | ⟨rfl, rfl⟩ | ⟨rfl, rfl⟩ |
    ⟨rfl, rfl⟩ | ⟨rfl, rfl⟩ <;> constructor

/-- A sign is taken whole if no character follows that would make it a longer one. -/
theorem operator?_of_sign {w r : List Char} {o : Operator} (h : Sign w o)
    (hr : ∀ c ∈ r.head?, c ≠ '=' ∧ c ≠ '>') : operator? (w ++ r) = some (o, r) := by
  cases r with
  | nil => cases h <;> rfl
  | cons c r =>
    obtain ⟨he, hg⟩ := hr c rfl
    cases h <;> simp [operator?, operators, operatorOf?, afterWord?, Ne.symm he, Ne.symm hg]

/-- The characters that a sign starts with. -/
def signFronts : List Char := ['=', '<', '>', '!', '~']

theorem operator?_eq_none {s : List Char} (hs : ∀ c ∈ s.head?, c ∉ signFronts) :
    operator? s = none := by
  rcases h : operator? s with _ | ⟨o, r⟩
  · rfl
  · obtain ⟨w, hw, rfl⟩ := sign_of_operator? h
    cases hw <;> exact absurd (by decide) (hs _ rfl)

/-! ### Places -/

theorem not_isDigit_of_isBlank {c : Char} (h : isBlank c = true) : isDigit c = false :=
  Bool.eq_false_iff.mpr fun hd =>
    absurd (Word.isNameChar_of_isBlank h) (by simp [Word.isNameChar_of_isDigit hd])

/-- Inside a place there are digits and blanks. -/
theorem ordinal_chars {w ds : List Char} (h : Ordinal w ds) :
    (∀ c ∈ ds, isDigit c = true) ∧ ∀ c ∈ w, isBlank c = true ∨ isDigit c = true := by
  obtain @⟨b, _, t, hb, -, hds, ht⟩ := h
  refine ⟨hds, fun c hc => ?_⟩
  simp only [List.mem_append] at hc
  rcases hc with (hc | hc) | hc
  · exact .inl (hb c hc)
  · exact .inr (hds c hc)
  · exact .inl (ht c hc)

theorem ordinal_of_placed? {s ds r : List Char} (h : placed? s = some (ds, r)) :
    ∃ w, Ordinal w ds ∧ s = w ++ ']' :: r := by
  rw [placed?_eq] at h
  split at h
  · cases h
  · rename_i hne
    obtain ⟨t, ht, he⟩ := Option.map_eq_some_iff.mp h
    obtain ⟨rfl, rfl⟩ := Prod.mk.inj he
    obtain ⟨b, hb, hs⟩ := exists_blanks_trimStart s
    obtain ⟨v, hv, hv'⟩ := exists_blanks_trimStart ((trimStart s).dropWhile isDigit)
    rw [after?_eq_some.mp ht] at hv'
    refine ⟨_, .mk hb hne (fun d hd => List.mem_takeWhile_imp hd) hv, ?_⟩
    calc s = b ++ trimStart s := hs
      _ = b ++ ((trimStart s).takeWhile isDigit ++ (trimStart s).dropWhile isDigit) := by
        rw [List.takeWhile_append_dropWhile]
      _ = _ := by rw [hv']; simp

theorem placed?_of_ordinal {w ds : List Char} (h : Ordinal w ds) (r : List Char) :
    placed? (w ++ ']' :: r) = some (ds, r) := by
  obtain @⟨b, _, t, hb, hne, hds, ht⟩ := h
  have hdigits : Stops isDigit (t ++ ']' :: r) := by
    rcases t with _ | ⟨c, t⟩
    · exact stops_cons (by decide) r
    · exact stops_cons (not_isDigit_of_isBlank (ht c List.mem_cons_self)) _
  have hfront : trimStart (ds ++ (t ++ ']' :: r)) = ds ++ (t ++ ']' :: r) := by
    obtain ⟨d, v, rfl⟩ := List.exists_cons_of_ne_nil hne
    exact trimStart_cons (Word.not_isBlank_of_isNameChar
      (Word.isNameChar_of_isDigit (hds d List.mem_cons_self))) _
  have hstart : trimStart (b ++ ds ++ t ++ ']' :: r) = ds ++ (t ++ ']' :: r) := by
    rw [List.append_assoc, List.append_assoc, trimStart_append hb, hfront]
  rw [placed?_eq, hstart, takeWhile_run hds hdigits, dropWhile_run hds hdigits, if_neg hne,
    trimStart_append ht, trimStart_cons (by decide), after?_self]
  rfl

end PathQuery.Query
