import PathQuery.Unicode.Age
import PathQuery.Unicode.Break

/-! # Classes by name

A name alone is looked up among the properties, the general categories and the
scripts, in this order; a name and a value together name a category, a script, a version
of the standard or a class of text segmentation. -/
namespace PathQuery.Unicode

open Text

/-- The class with the given name.  Three short names mean a category although a
property has them too. -/
def named? (name : List Char) : Option CharSet :=
  let name := normalName name
  let property :=
    if ["cf", "sc", "lc"].contains name then none else (property? name).or (contributory? name)
  (property.or (category? name)).or (script? name)

/-- The class of the characters whose property `name` has the value `value`. -/
def valued? (name value : List Char) : Option CharSet :=
  let name := normalName name
  let value := normalName value
  if name = "generalcategory" ∨ name = "gc" then category? value
  else if name = "script" ∨ name = "sc" then script? value
  else if name = "scriptextensions" ∨ name = "scx" then scriptExtension? value
  else if name = "age" then age? value
  else if name = "graphemeclusterbreak" ∨ name = "gcb" then graphemeBreak? value
  else if name = "wordbreak" ∨ name = "wb" then wordBreak? value
  else if name = "sentencebreak" ∨ name = "sb" then sentenceBreak? value
  else none

end PathQuery.Unicode
