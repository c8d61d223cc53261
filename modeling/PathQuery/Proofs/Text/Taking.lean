import PathQuery.Text.Rest

/-! # Taking off the front of a text

The readers hand back a rest together with the proof that it is shorter, or no longer, than the
text.  What is proved about reading does not depend on this proof, so `taken` and `after?` leave
it out. -/
namespace PathQuery.Text

/-! ### One character -/

/-- The text after `c`, if it starts with it. -/
def after? (c : Char) (s : List Char) : Option (List Char) := (afterChar? c s).map Subtype.val

@[simp] theorem after?_nil (c : Char) : after? c [] = none := rfl

@[simp] theorem after?_self (c : Char) (s : List Char) : after? c (c :: s) = some s := by
  simp [after?, afterChar?]

theorem after?_of_ne {c d : Char} (h : d ≠ c) (s : List Char) : after? c (d :: s) = none := by
  simp [after?, afterChar?, h]

theorem after?_eq_some {c : Char} {s r : List Char} : after? c s = some r ↔ s = c :: r := by
  cases s with
  | nil => simp
  | cons d s =>
    by_cases h : d = c
    · subst h; simp
    · simp [after?_of_ne h, h]

/-! ### What a reader takes -/

section Taken

variable {α : Type} {P : List Char → Prop}

/-- What a reader takes off a text and what it leaves over. -/
def taken (x : Option (α × { r : List Char // P r })) : Option (α × List Char) :=
  x.map fun p => (p.1, p.2.1)

@[simp] theorem taken_none : taken (none : Option (α × { r : List Char // P r })) = none := rfl

@[simp] theorem taken_some (x : α × { r : List Char // P r }) :
    taken (some x) = some (x.1, x.2.1) := rfl

/-- What is taken and left over, back to what the reader gives. -/
theorem taken_eq_some {x : Option (α × { r : List Char // P r })} {a : α} {r : List Char} :
    taken x = some (a, r) ↔ ∃ h : P r, x = some (a, ⟨r, h⟩) := by
  cases x with
  | none => simp
  | some x =>
    obtain ⟨b, s, hs⟩ := x
    simp only [taken_some, Option.some.injEq, Prod.mk.injEq, Subtype.mk.injEq, exists_prop]
    constructor
    · rintro ⟨rfl, rfl⟩
      exact ⟨hs, rfl, rfl⟩
    · exact And.right

end Taken

end PathQuery.Text
