import PathQuery.Proofs.Query.Outcome
import PathQuery.Proofs.Query.Tokens

/-! # What the readers ask of each other

The parts of a query are read by readers that call each other.  The plan of a part
(`Part.plan`) is what its reader does with a text when only its own steps are looked at: it
calls other readers, itself perhaps, and goes on with their answers, or is done.  A plan can be
run with any answers; with those of the readers it comes to what the reader of the part hands
back (`Part.read_eq_run`).  So the calls of a plan are the calls that the reader makes. -/
namespace PathQuery
namespace Query.Reader

open Text

/-- The parts of a query that have a reader.  The ends of a conjunction and of a disjunction
come after operands that form a predicate, and items belong to a query. -/
inductive Part where
  | quoted
  | name
  | literal
  | leaf
  | unary
  | conjunction
  | conjunctionRest (p : Predicate)
  | disjunction
  | disjunctionRest (p : Predicate)
  | selector
  | item (query : List Char) (first : Bool)
  | items (query : List Char) (first : Bool)

/-- What is read of a part. -/
@[reducible] def Part.Result : Part → Type
  | quoted => List Char
  | name => Written
  | literal => Literal
  | leaf | unary | conjunction | conjunctionRest _ | disjunction | disjunctionRest _ => Predicate
  | selector | item _ _ => Step
  | items _ _ => List Step

/-- What a reader may hand back for a part: the result and the rest of the text. -/
abbrev Part.Answer (k : Part) := Except Error (k.Result × List Char)

/-- The steps of a reader: it is done, or it has a part read off a text and goes on with what
is read and left over.  Errors of that part are its own. -/
inductive Plan (α : Type) where
  | done (x : Except Error α)
  | call (k : Part) (s : List Char) (next : k.Result × List Char → Plan α)

namespace Plan

variable {α : Type}

/-- What a plan comes to, with the answers to its calls. -/
def run (answer : (k : Part) → List Char → k.Answer) : Plan α → Except Error α
  | done x => x
  | call k s next => (answer k s).bind fun x => (next x).run answer

/-- The calls that a plan makes, one after the other, with the answers to them. -/
def calls (answer : (k : Part) → List Char → k.Answer) : Plan α → List (Part × List Char)
  | done _ => []
  | call k s next =>
    (k, s) ::
      match answer k s with
      | .ok x => (next x).calls answer
      | .error _ => []

/-- A plan comes to the same if its calls are answered alike. -/
theorem run_congr {answer answer' : (k : Part) → List Char → k.Answer} {p : Plan α}
    (h : ∀ c ∈ p.calls answer, answer c.1 c.2 = answer' c.1 c.2) :
    p.run answer = p.run answer' := by
  induction p with
  | done x => rfl
  | call k s next ih =>
    rw [calls] at h
    obtain ⟨hfirst, hrest⟩ := List.forall_mem_cons.mp h
    simp only [run, ← hfirst]
    cases hx : answer k s with
    | error e => rfl
    | ok x =>
      rw [hx] at hrest
      exact ih x hrest

end Plan

namespace Part

/-! ### Plans -/

/-- A call at the end of a plan. -/
def last (k : Part) (s : List Char) : Plan (k.Result × List Char) :=
  .call k s fun x => .done (.ok x)

/-- A character that has to follow. -/
def closing {α : Type} (c : Char) (what : Expected) (a : α) (s : List Char) :
    Plan (α × List Char) :=
  match after? c s with
  | some r => .done (.ok (a, r))
  | none => .done (.error (.query (.expected what s)))

/-- The name of an item, as a step. -/
def named (s : List Char) : Plan (Step × List Char) :=
  .call .name s fun x => .done (.ok (x.1.step, x.2))

/-- What the reader of a part does with a text. -/
def plan : (k : Part) → List Char → Plan (k.Result × List Char)
  | quoted, s =>
    match Quoted.readRest? false s with
    | some x => .done (.ok x)
    | none => .done (.error (.query (.unterminated ('"' :: s))))
  | name, s =>
    match after? '"' s, after? '*' s, s.takeWhile Word.isNameChar with
    | some r, _, _ => .call .quoted r fun x => .done (.ok (.key (String.ofList x.1), x.2))
    | none, some r, _ => .done (.ok (.wildcard, r))
    | none, none, [] => .done (.error (.query (.expected .fieldName s)))
    | none, none, w => .done (.ok (.key (String.ofList w), s.dropWhile Word.isNameChar))
  | literal, s =>
    match after? '"' s, s.takeWhile fun c => !Word.isDelimiter c with
    | some r, _ => .call .quoted r fun x => .done (.ok (.quoted x.1, x.2))
    | none, [] => .done (.error (.query (.expected .value s)))
    | none, w => .done (.ok (.bare w, s.dropWhile fun c => !Word.isDelimiter c))
  | leaf, s =>
    .call .name s fun x =>
      match x.1 with
      | .wildcard => .done (.error (.query (.expected .fieldName s)))
      | .key field =>
        match operator? (trimStart x.2) with
        | none => .done (.ok (.has field, x.2))
        | some (o, u) =>
          .call .literal (trimStart u) fun y =>
            .done ((comparison field o y.1).map fun p => (p, y.2))
  | unary, s =>
    match after? '!' (trimStart s), after? '(' (trimStart s) with
    | some r, _ => .call .unary r fun x => .done (.ok (.not x.1, x.2))
    | none, some r => .call .disjunction r fun x => closing ')' .closingParen x.1 (trimStart x.2)
    | none, none => last .leaf (trimStart s)
  | conjunction, s => .call .unary s fun x => last (.conjunctionRest x.1) x.2
  | conjunctionRest p, s =>
    match after? '&' (trimStart s) with
    | none => .done (.ok (p, s))
    | some r => .call .unary r fun x => last (.conjunctionRest (.and p x.1)) x.2
  | disjunction, s => .call .conjunction s fun x => last (.disjunctionRest x.1) x.2
  | disjunctionRest p, s =>
    match after? '|' (trimStart s) with
    | none => .done (.ok (p, s))
    | some r => .call .conjunction r fun x => last (.disjunctionRest (.or p x.1)) x.2
  | selector, s =>
    match placed? s with
    -- digits alone are no predicate, even if they are too many for a place
    | some (ds, r) =>
      if Decimal.digitsValue ds < 2 ^ 64 then .done (.ok (.nth (Decimal.digitsValue ds), r))
      else .done (.error (.query (.invalidIndex ds)))
    | none =>
      .call .disjunction (trimStart s) fun x =>
        closing ']' .closingBracket (.filter x.1) (trimStart x.2)
  | item query first, s =>
    match afterPoints? s, after? '[' s with
    | some r, _ =>
      .call .name r fun x =>
        match x.1 with
        | .wildcard => .done (.error (.query (.wildcardAfterFind query)))
        | .key k => .done (.ok (.search k, x.2))
    | none, some r => last .selector r
    | none, none =>
      if first then named s
      else
        match after? '.' s with
        | none => .done (.error (.query (.expected .separator s)))
        | some r => named r
  | items _ _, [] => .done (.ok ([], []))
  | items query first, c :: s =>
    .call (.item query first) (c :: s) fun x =>
      .call (.items query false) x.2 fun y => .done (.ok (x.1 :: y.1, y.2))

/-! ### The readers follow their plans -/

/-- What the reader of a part hands back.  Items are read to the end of the text. -/
def read : (k : Part) → List Char → k.Answer
  | quoted, s => outcome (Reader.quoted s)
  | name, s => outcome (Reader.name s)
  | literal, s => outcome (Reader.literal s)
  | leaf, s => outcome (Reader.leaf s)
  | unary, s => outcome (Reader.unary s)
  | conjunction, s => outcome (Reader.conjunction s)
  | conjunctionRest p, s => outcome (Reader.conjunctionRest p s)
  | disjunction, s => outcome (Reader.disjunction s)
  | disjunctionRest p, s => outcome (Reader.disjunctionRest p s)
  | selector, s => outcome (Reader.selector s)
  | item query first, s => outcome (Reader.item query first s)
  | items query first, s => (Reader.items query first s).map fun ss => (ss, [])

/-- A call comes to what the reader of the part hands back and what is made of it. -/
theorem bind_eq_run {α : Type} (k : Part) (s : List Char)
    {f : k.Result × List Char → Except Error α} {next : k.Result × List Char → Plan α}
    (h : ∀ x, f x = (next x).run read) :
    Except.bind (k.read s) f = (Plan.call k s next).run read := by
  rw [Plan.run, funext h]

theorem map_eq_run {α : Type} (k : Part) (s : List Char) (f : k.Result × List Char → α) :
    Except.map f (k.read s) = (Plan.call k s fun x => .done (.ok (f x))).run read := by
  rw [Plan.run]
  cases k.read s <;> rfl

theorem run_last (k : Part) (s : List Char) : k.read s = (last k s).run read := by
  rw [last, ← map_eq_run]
  cases k.read s <;> rfl

theorem run_closing {α : Type} (c : Char) (what : Expected) (a : α) (s : List Char) :
    (match after? c s with
      | some r => .ok (a, r)
      | none => .error (.query (.expected what s))) = (closing c what a s).run read := by
  rw [closing]
  cases after? c s <;> rfl

theorem read_name (s : List Char) : read .name s = (plan .name s).run read := by
  show outcome (Reader.name s) = _
  cases hq : after? '"' s with
  | some r =>
    obtain rfl := after?_eq_some.mp hq
    simp only [plan, hq, outcome_name_quote]
    exact map_eq_run .quoted r _
  | none =>
    cases ha : after? '*' s with
    | some r =>
      obtain rfl := after?_eq_some.mp ha
      simp only [plan, hq, ha, outcome_name_star, Plan.run]
    | none =>
      cases s with
      | nil => rfl
      | cons c r =>
        by_cases hc : Word.isNameChar c = true
        · rw [outcome_name_bare hc]
          simp [plan, hq, ha, hc, Plan.run]
        · have hstop : Stops Word.isNameChar (c :: r) := stops_cons (Bool.eq_false_iff.mpr hc) r
          rw [outcome_name_error hq ha hstop]
          simp [plan, hq, ha, hc, Plan.run]

theorem read_literal (s : List Char) : read .literal s = (plan .literal s).run read := by
  show outcome (Reader.literal s) = _
  cases hq : after? '"' s with
  | some r =>
    obtain rfl := after?_eq_some.mp hq
    simp only [plan, hq, outcome_literal_quote]
    exact map_eq_run .quoted r _
  | none =>
    cases s with
    | nil => rfl
    | cons c r =>
      cases hc : Word.isDelimiter c with
      | false =>
        rw [outcome_literal_bare hc]
        simp [plan, hq, hc, Plan.run]
      | true =>
        have hne : c ≠ '"' := by
          rintro rfl
          simp at hq
        simp [plan, hq, hc, Plan.run, Reader.literal, hne]

theorem read_leaf (s : List Char) : read .leaf s = (plan .leaf s).run read := by
  refine (outcome_leaf s).trans (bind_eq_run .name s fun x => ?_)
  obtain ⟨w, r⟩ := x
  cases w with
  | wildcard => rfl
  | key field =>
    dsimp only
    cases operator? (trimStart r) with
    | none => rfl
    | some x => exact bind_eq_run .literal _ fun y => rfl

theorem read_unary (s : List Char) : read .unary s = (plan .unary s).run read := by
  refine (outcome_unary s).trans ?_
  rw [plan]
  cases after? '!' (trimStart s) with
  | some r => exact map_eq_run .unary r _
  | none =>
    cases after? '(' (trimStart s) with
    | some r => exact bind_eq_run .disjunction r fun x => run_closing ..
    | none => exact run_last .leaf _

/-- What follows operands is read as planned, if what comes after a further one is. -/
theorem rest_eq_run {α : Type} (mark : Char) (k : Part) (a : α) (s : List Char)
    {f : k.Result × List Char → Except Error (α × List Char)}
    {next : k.Result × List Char → Plan (α × List Char)} (h : ∀ x, f x = (next x).run read) :
    (match after? mark (trimStart s) with
      | none => .ok (a, s)
      | some r => Except.bind (k.read r) f) =
      (match after? mark (trimStart s) with
        | none => Plan.done (.ok (a, s))
        | some r => .call k r next).run read := by
  cases after? mark (trimStart s) with
  | none => rfl
  | some r => exact bind_eq_run k r h

theorem read_selector (s : List Char) : read .selector s = (plan .selector s).run read := by
  refine (outcome_selector s).trans ?_
  rw [plan]
  cases placed? s with
  | some x =>
    dsimp only
    split <;> rfl
  | none => exact bind_eq_run .disjunction _ fun x => run_closing ..

theorem read_item (query : List Char) (first : Bool) (s : List Char) :
    read (.item query first) s = (plan (.item query first) s).run read := by
  have hnamed : ∀ r, nameStep r = (named r).run read := fun r => map_eq_run .name r _
  refine (outcome_item query first s).trans ?_
  rw [plan]
  cases afterPoints? s with
  | some r =>
    refine bind_eq_run .name r fun x => ?_
    obtain ⟨w, t⟩ := x
    cases w <;> rfl
  | none =>
    cases after? '[' s with
    | some r => exact run_last .selector r
    | none =>
      cases first with
      | true => exact hnamed s
      | false =>
        simp only [Bool.false_eq_true, if_false]
        cases after? '.' s with
        | none => rfl
        | some r => exact hnamed r

theorem read_items (query : List Char) (first : Bool) (s : List Char) :
    read (.items query first) s = (plan (.items query first) s).run read := by
  cases s with
  | nil =>
    rw [read, items_nil]
    rfl
  | cons c s =>
    rw [read, items_of_ne_nil query first (List.cons_ne_nil c s)]
    have hrest : ∀ x : Step × List Char,
        ((Reader.items query false x.2).map fun ss => x.1 :: ss).map (fun ss => (ss, [])) =
          (Plan.call (.items query false) x.2 fun y => .done (.ok (x.1 :: y.1, y.2))).run read := by
      intro x
      rw [← map_eq_run, read]
      cases Reader.items query false x.2 <;> rfl
    refine Eq.trans ?_ (bind_eq_run (.item query first) (c :: s) hrest)
    rw [read]
    cases outcome (Reader.item query first (c :: s)) <;> rfl

/-- What the reader of a part hands back is what its plan comes to. -/
theorem read_eq_run (k : Part) (s : List Char) : k.read s = (k.plan s).run read := by
  cases k with
  | quoted =>
    rw [read, outcome_quoted, plan]
    cases Quoted.readRest? false s <;> rfl
  | name => exact read_name s
  | literal => exact read_literal s
  | leaf => exact read_leaf s
  | unary => exact read_unary s
  | conjunction =>
    exact (outcome_conjunction s).trans
      (bind_eq_run .unary s fun x => run_last (.conjunctionRest _) _)
  | conjunctionRest p =>
    exact (outcome_conjunctionRest p s).trans
      (rest_eq_run '&' .unary p s fun x => run_last (.conjunctionRest _) _)
  | disjunction =>
    exact (outcome_disjunction s).trans
      (bind_eq_run .conjunction s fun x => run_last (.disjunctionRest _) _)
  | disjunctionRest p =>
    exact (outcome_disjunctionRest p s).trans
      (rest_eq_run '|' .conjunction p s fun x => run_last (.disjunctionRest _) _)
  | selector => exact read_selector s
  | item query first => exact read_item query first s
  | items query first => exact read_items query first s

end Part

end Query.Reader

end PathQuery
