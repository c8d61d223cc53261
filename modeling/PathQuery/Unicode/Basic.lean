import PathQuery.Text.Word

/-! # Named classes of characters

A class is a table of characters under its names.  Names are compared in a normal
form: without spaces, dashes and underscores, in lower case, and without an `is` in
front. -/
namespace PathQuery.Unicode

open Text

/-- A class of characters: its names in normal form and the rows of its table. -/
structure Class where
  names : List String
  rows : List String

namespace Class

/-- The members of a class. -/
def chars (c : Class) : CharSet := CharSet.ofTable (" ".intercalate c.rows)

/-- The members of the class with the given name. -/
def find? (cs : List Class) (name : String) : Option CharSet :=
  (cs.find? fun c => c.names.contains name).map chars

end Class

/-- A name without the `is` that it may start with. -/
def withoutIs : List Char → Bool × List Char
  | i :: s :: r => if lowerCase i = 'i' ∧ lowerCase s = 's' then (true, r) else (false, i :: s :: r)
  | r => (false, r)

/-- The normal form of a name.  `isc` is a name of its own. -/
def normalName (name : List Char) : String :=
  let (had, r) := withoutIs name
  let kept := r.filter fun c => c ≠ ' ' && c ≠ '_' && c ≠ '-' && decide (c.toNat < 0x80)
  let lower := kept.map lowerCase
  if had ∧ lower = ['c'] then "isc" else String.ofList lower

example : normalName "Is_Greek".toList = "greek" := by decide +kernel

end PathQuery.Unicode
