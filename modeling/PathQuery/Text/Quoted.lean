import PathQuery.Text.Rest

/-! # Quoted strings

A text between double quotes.  A backslash stands before each quote and each backslash
inside; when a string is read, the character after a backslash is taken as it is,
whatever it is.  Reading one takes something off the text (`length_lt_of_readRest?`). -/
namespace PathQuery.Text.Quoted

/-- A character inside the quotes. -/
def escape (c : Char) : List Char := if c = '"' ∨ c = '\\' then ['\\', c] else [c]

/-- The text in quotes. -/
def write (s : List Char) : List Char := '"' :: s.flatMap escape ++ ['"']

/-- The text up to the closing quote, and what follows the quote; `none` if there is no
closing quote.  `escaped` tells that a backslash stands before. -/
def readRest? : (escaped : Bool) → List Char → Option (List Char × List Char)
  | _, [] => none
  | true, c :: r => (readRest? false r).map fun p => (c :: p.1, p.2)
  | false, c :: r =>
    if c = '"' then some ([], r)
    else if c = '\\' then readRest? true r
    else (readRest? false r).map fun p => (c :: p.1, p.2)

theorem length_lt_of_readRest? {e : Bool} {s x r : List Char} (h : readRest? e s = some (x, r)) :
    r.length < s.length := by
  induction s generalizing e x with
  | nil => cases e <;> simp [readRest?] at h
  | cons c s ih =>
    cases e with
    | true =>
      obtain ⟨p, hp, he⟩ := Option.map_eq_some_iff.mp h
      exact Nat.lt_succ_of_lt (ih (x := p.1) (hp.trans (by rw [← (Prod.mk.inj he).2])))
    | false =>
      simp only [readRest?] at h
      split at h
      · injection h with h
        rw [← (Prod.mk.inj h).2]
        exact Nat.lt_succ_self _
      · split at h
        · exact Nat.lt_succ_of_lt (ih h)
        · obtain ⟨p, hp, he⟩ := Option.map_eq_some_iff.mp h
          exact Nat.lt_succ_of_lt (ih (x := p.1) (hp.trans (by rw [← (Prod.mk.inj he).2])))

/-- A quoted string without its opening quote, taken off the front. -/
def read? (s : List Char) : Option (List Char × Shorter s) :=
  match h : readRest? false s with
  | some (x, r) => some (x, ⟨r, length_lt_of_readRest? h⟩)
  | none => none

end PathQuery.Text.Quoted
