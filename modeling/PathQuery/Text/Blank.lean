import PathQuery.Text.CharSet

/-! # Blank characters

The characters with the property `White_Space`, and the two ways of cutting them
off a text. -/
namespace PathQuery.Text

/-- The characters that count as white space. -/
def blank : CharSet where
  ranges := [
    (0x9, 0xd), (0x20, 0x20), (0x85, 0x85), (0xa0, 0xa0), (0x1680, 0x1680), (0x2000, 0x200a),
    (0x2028, 0x2029), (0x202f, 0x202f), (0x205f, 0x205f), (0x3000, 0x3000)]

/-- Whether `c` is white space. -/
def isBlank (c : Char) : Bool := blank.contains c

/-- The text without the white space it starts with. -/
def trimStart (s : List Char) : List Char := s.dropWhile isBlank

/-- The text without the white space at either end. -/
def trim (s : List Char) : List Char := (trimStart (trimStart s).reverse).reverse

theorem length_trimStart_le (s : List Char) : (trimStart s).length ≤ s.length :=
  (List.dropWhile_sublist _).length_le

/-- What is cut off is a part of the front. -/
theorem trimStart_suffix (s : List Char) : trimStart s <:+ s := List.dropWhile_suffix _

end PathQuery.Text
