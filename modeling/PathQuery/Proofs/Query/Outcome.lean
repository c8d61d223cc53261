import Mathlib.Algebra.Group.Nat.Defs
import PathQuery.Proofs.Text.Taking
import PathQuery.Query.Reader

/-! # Outcomes of the readers

The readers of queries hand back a rest together with the proof that it is shorter.
`outcome` leaves the proof out, and each reader then has one equation between outcomes.
What is proved about reading refers to these equations and not to the readers. -/
namespace PathQuery
namespace Query.Reader

open Text

variable {α : Type} {P : List Char → Prop}

/-- What a reader takes off a text and what it leaves over. -/
def outcome : Except Error (α × { r : List Char // P r }) → Except Error (α × List Char)
  | .ok x => .ok (x.1, x.2.1)
  | .error e => .error e

@[simp] theorem outcome_ok (x : α × { r : List Char // P r }) :
    outcome (.ok x) = .ok (x.1, x.2.1) := rfl

@[simp] theorem outcome_error (e : Error) :
    outcome (.error e : Except Error (α × { r : List Char // P r })) = .error e := rfl

theorem bind_eq_ok {β : Type} {x : Except Error α} {f : α → Except Error β} {b : β} :
    x.bind f = .ok b ↔ ∃ a, x = .ok a ∧ f a = .ok b := by
  cases x with
  | error e => simp [Except.bind]
  | ok a => simp [Except.bind]

theorem map_eq_ok {β : Type} {x : Except Error α} {f : α → β} {b : β} :
    x.map f = .ok b ↔ ∃ a, x = .ok a ∧ f a = b := by
  cases x with
  | error e => simp [Except.map]
  | ok a => simp [Except.map]

/-! ### Predicates -/

/-- The operator that a text starts with, and the text after it. -/
def operator? (s : List Char) : Option (Operator × List Char) :=
  (operatorOf? operators s).map fun x => (x.1, x.2.1)

theorem outcome_leaf (s : List Char) :
    outcome (leaf s) =
      (outcome (name s)).bind fun x =>
        match x.1 with
        | .wildcard => .error (.query (.expected .fieldName s))
        | .key field =>
          match operator? (trimStart x.2) with
          | none => .ok (.has field, x.2)
          | some (o, u) =>
            (outcome (literal (trimStart u))).bind fun y =>
              (comparison field o y.1).map fun p => (p, y.2) := by
  unfold leaf
  cases name s with
  | error e => rfl
  | ok x =>
    obtain ⟨w, r, hr⟩ := x
    cases w with
    | wildcard => rfl
    | key field =>
      simp only [skipBlank, operator?, outcome_ok, Except.bind]
      cases operatorOf? operators (trimStart r) with
      | none => rfl
      | some x =>
        obtain ⟨o, u, hu⟩ := x
        simp only [Option.map_some]
        cases literal (trimStart u) with
        | error e => rfl
        | ok y =>
          simp only [outcome_ok]
          cases comparison field o y.1 <;> rfl

theorem outcome_unary (s : List Char) :
    outcome (unary s) =
      match after? '!' (trimStart s) with
      | some r => (outcome (unary r)).map fun x => (.not x.1, x.2)
      | none =>
        match after? '(' (trimStart s) with
        | some r =>
          (outcome (disjunction r)).bind fun x =>
            match after? ')' (trimStart x.2) with
            | some w => .ok (x.1, w)
            | none => .error (.query (.expected .closingParen (trimStart x.2)))
        | none => outcome (leaf (trimStart s)) := by
  rw [unary]
  simp only [skipBlank, after?]
  cases afterChar? '!' (trimStart s) with
  | some x =>
    simp only [Option.map_some]
    cases unary x.1 <;> rfl
  | none =>
    cases afterChar? '(' (trimStart s) with
    | none => cases leaf (trimStart s) <;> rfl
    | some x =>
      simp only [Option.map_none, Option.map_some]
      cases disjunction x.1 with
      | error e => rfl
      | ok y =>
        simp only [outcome_ok, Except.bind]
        cases afterChar? ')' (trimStart y.2.1) <;> rfl

theorem outcome_conjunction (s : List Char) :
    outcome (conjunction s) =
      (outcome (unary s)).bind fun x => outcome (conjunctionRest x.1 x.2) := by
  rw [conjunction]
  cases unary s with
  | error e => rfl
  | ok x =>
    simp only [outcome_ok, Except.bind]
    cases conjunctionRest x.1 x.2.1 <;> rfl

theorem outcome_conjunctionRest (p : Predicate) (s : List Char) :
    outcome (conjunctionRest p s) =
      match after? '&' (trimStart s) with
      | none => .ok (p, s)
      | some r => (outcome (unary r)).bind fun x => outcome (conjunctionRest (.and p x.1) x.2) := by
  rw [conjunctionRest]
  simp only [skipBlank, after?]
  cases afterChar? '&' (trimStart s) with
  | none => rfl
  | some x =>
    simp only [Option.map_some]
    cases unary x.1 with
    | error e => rfl
    | ok y =>
      simp only [outcome_ok, Except.bind]
      cases conjunctionRest (.and p y.1) y.2.1 <;> rfl

theorem outcome_disjunction (s : List Char) :
    outcome (disjunction s) =
      (outcome (conjunction s)).bind fun x => outcome (disjunctionRest x.1 x.2) := by
  rw [disjunction]
  cases conjunction s with
  | error e => rfl
  | ok x =>
    simp only [outcome_ok, Except.bind]
    cases disjunctionRest x.1 x.2.1 <;> rfl

theorem outcome_disjunctionRest (p : Predicate) (s : List Char) :
    outcome (disjunctionRest p s) =
      match after? '|' (trimStart s) with
      | none => .ok (p, s)
      | some r =>
        (outcome (conjunction r)).bind fun x => outcome (disjunctionRest (.or p x.1) x.2) := by
  rw [disjunctionRest]
  simp only [skipBlank, after?]
  cases afterChar? '|' (trimStart s) with
  | none => rfl
  | some x =>
    simp only [Option.map_some]
    cases conjunction x.1 with
    | error e => rfl
    | ok y =>
      simp only [outcome_ok, Except.bind]
      cases disjunctionRest (.or p y.1) y.2.1 <;> rfl

/-! ### Items -/

/-- The digits of a place and the text after its bracket. -/
def placed? (s : List Char) : Option (List Char × List Char) :=
  (place? s).map fun x => (x.1, x.2.1)

theorem placed?_eq (s : List Char) :
    placed? s =
      if (trimStart s).takeWhile isDigit = [] then none
      else
        (after? ']' (trimStart ((trimStart s).dropWhile isDigit))).map fun r =>
          ((trimStart s).takeWhile isDigit, r) := by
  unfold placed? place? takeDigits skipWhile skipBlank
  simp only [after?]
  split
  · rename_i ds w hw hds h
    simp_all
  · rename_i h
    split
    · rfl
    · rename_i hne
      cases h' : afterChar? ']' (trimStart ((trimStart s).dropWhile isDigit)) with
      | none => simp
      | some x =>
        obtain ⟨d, ds, hd⟩ := List.exists_cons_of_ne_nil hne
        exact absurd h' (fun hx => h d ds x hd hx)

theorem outcome_selector (s : List Char) :
    outcome (selector s) =
      match placed? s with
      | some (ds, r) =>
        if Decimal.digitsValue ds < 2 ^ 64 then .ok (.nth (Decimal.digitsValue ds), r)
        else .error (.query (.invalidIndex ds))
      | none =>
        (outcome (disjunction (trimStart s))).bind fun x =>
          match after? ']' (trimStart x.2) with
          | some r => .ok (.filter x.1, r)
          | none => .error (.query (.expected .closingBracket (trimStart x.2))) := by
  unfold selector placed?
  cases place? s with
  | some x =>
    have hpow : Nat.pow 2 64 = 2 ^ 64 := rfl
    simp only [Option.map_some, hpow]
    split <;> rfl
  | none =>
    simp only [skipBlank, Option.map_none]
    cases disjunction (trimStart s) with
    | error e => rfl
    | ok x =>
      simp only [outcome_ok, Except.bind, after?]
      cases afterChar? ']' (trimStart x.2.1) <;> rfl

/-- The text after two points, if it starts with them. -/
def afterPoints? (s : List Char) : Option (List Char) := (after? '.' s).bind (after? '.')

theorem afterPoints?_eq_some {s r : List Char} :
    afterPoints? s = some r ↔ s = '.' :: '.' :: r := by
  simp only [afterPoints?, Option.bind_eq_some_iff, after?_eq_some]
  exact ⟨fun ⟨_, hs, ht⟩ => ht ▸ hs, fun h => ⟨_, h, rfl⟩⟩

theorem afterWord?_points (s : List Char) :
    (afterWord? ['.', '.'] s).map Subtype.val = afterPoints? s := by
  rcases s with _ | ⟨c, _ | ⟨d, r⟩⟩
  · rfl
  · by_cases hc : c = '.' <;> simp [afterWord?, afterPoints?, after?, afterChar?, hc, eq_comm]
  · by_cases hc : c = '.' <;> by_cases hd : d = '.' <;>
      simp [afterWord?, afterPoints?, after?, afterChar?, hc, hd, eq_comm]

/-- The name of an item, as a step. -/
def nameStep (s : List Char) : Except Error (Step × List Char) :=
  (outcome (name s)).map fun x => (x.1.step, x.2)

theorem outcome_item (query : List Char) (first : Bool) (s : List Char) :
    outcome (item query first s) =
      match afterPoints? s, after? '[' s with
      | some r, _ =>
        (outcome (name r)).bind fun x =>
          match x.1 with
          | .wildcard => .error (.query (.wildcardAfterFind query))
          | .key k => .ok (.search k, x.2)
      | none, some r => outcome (selector r)
      | none, none =>
        if first then nameStep s
        else
          match after? '.' s with
          | none => .error (.query (.expected .separator s))
          | some r => nameStep r := by
  rw [← afterWord?_points]
  unfold item after? nameStep
  cases afterWord? ['.', '.'] s with
  | some r =>
    simp only [Option.map_some]
    cases name r.1 with
    | error e => rfl
    | ok x => obtain ⟨w, t⟩ := x; cases w <;> rfl
  | none =>
    cases afterChar? '[' s with
    | some r =>
      simp only [Option.map_some, Option.map_none]
      cases selector r.1 <;> rfl
    | none =>
      simp only [Option.map_none]
      split
      · cases name s <;> rfl
      · cases afterChar? '.' s with
        | none => rfl
        | some r =>
          simp only [Option.map_some]
          cases name r.1 <;> rfl

theorem items_nil (query : List Char) (first : Bool) : items query first [] = .ok [] := by
  rw [items]

theorem items_of_ne_nil (query : List Char) (first : Bool) {s : List Char} (hs : s ≠ []) :
    items query first s =
      (outcome (item query first s)).bind fun x =>
        (items query false x.2).map fun ss => x.1 :: ss := by
  obtain ⟨c, r, rfl⟩ := List.exists_cons_of_ne_nil hs
  rw [items]
  cases item query first (c :: r) with
  | error e => rfl
  | ok x =>
    simp only [outcome_ok, Except.bind]
    cases items query false x.2.1 <;> rfl

end Query.Reader

end PathQuery
