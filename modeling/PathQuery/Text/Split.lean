/-! # Splitting texts

The pieces of a text between the places where one character stands.  `join_split` says
that nothing but these characters is lost. -/
namespace PathQuery.Text

/-- The pieces between the places where `c` stands; there is at least one. -/
def split (c : Char) : List Char → List (List Char)
  | [] => [[]]
  | d :: s =>
    if d = c then [] :: split c s
    else
      match split c s with
      | [] => [[d]]
      | p :: ps => (d :: p) :: ps

/-- Pieces with `c` between them. -/
def join (c : Char) : List (List Char) → List Char
  | [] => []
  | [p] => p
  | p :: q :: ps => p ++ c :: join c (q :: ps)

theorem split_ne_nil (c : Char) (s : List Char) : split c s ≠ [] := by
  cases s with
  | nil => simp [split]
  | cons d s =>
    simp only [split]
    split
    · simp
    · split <;> simp

theorem join_split (c : Char) (s : List Char) : join c (split c s) = s := by
  induction s with
  | nil => rfl
  | cons d s ih =>
    cases h : split c s with
    | nil => exact absurd h (split_ne_nil c s)
    | cons p ps =>
      rw [h] at ih
      by_cases hd : d = c
      · subst hd
        simp [split, h, join, ih]
      · cases ps with
        | nil => simpa [split, h, hd, join] using ih
        | cons q ps => simpa [split, h, hd, join] using ih

end PathQuery.Text
