import PathQuery.Unicode.Category
import PathQuery.Unicode.Property
import PathQuery.Unicode.Script
import PathQuery.Text.Blank
import PathQuery.Text.Word

/-! # Tables by name

The general categories, scripts and properties by their names in normal form, and the
classes of digits and of characters of words. -/
namespace PathQuery.Unicode

open Text

/-- The surrogates.  They are code points of the category `Other`, but no characters. -/
def surrogates : CharSet := ⟨[(0xd800, 0xdfff)]⟩

/-- The characters of the general category with the given normal name. -/
def category? (name : String) : Option CharSet :=
  if name = "any" then some .all
  else if name = "ascii" then some ⟨[(0, 0x7f)]⟩
  else if name = "assigned" then (Class.find? categories "cn").map CharSet.complement
  else if name = "c" ∨ name = "other" then
    some (.unionAll (surrogates :: ["cc", "cf", "co", "cn"].filterMap (Class.find? categories)))
  else
    match categoryGroups.find? fun g => g.1.contains name with
    | some g => some (.unionAll (g.2.filterMap (Class.find? categories)))
    | none => Class.find? categories name

/-- The characters of the script with the given normal name. -/
def script? (name : String) : Option CharSet := Class.find? scripts name

/-- The characters that are used with the script of the given normal name. -/
def scriptExtension? (name : String) : Option CharSet :=
  (Class.find? scriptExtensions name).or (script? name)

/-- The characters that have the property with the given normal name. -/
def property? (name : String) : Option CharSet :=
  if name = "whitespace" ∨ name = "wspace" ∨ name = "space" then some blank
  else Class.find? properties name

/-- The characters of general categories. -/
def categoryChars (names : List String) : CharSet := .unionAll (names.filterMap category?)

/-- The characters of a script. -/
def scriptChars (name : String) : CharSet := (script? name).getD .empty

/-- The characters that have a property. -/
def propertyChars (name : String) : CharSet := (property? name).getD .empty

/-- The decimal digits. -/
def decimalDigit : CharSet := categoryChars ["nd"]

/-- The characters of words: letters, marks, decimal digits, connectors such as the
underscore, and joiners. -/
def word : CharSet :=
  .unionAll
    [propertyChars "alphabetic", categoryChars ["m", "nd", "pc"], propertyChars "joincontrol"]

/-- Whether `c` is a character of words. -/
def isWord (c : Char) : Bool :=
  if c.toNat < 0x80 then isAsciiLetter c || isDigit c || c = '_' else word.contains c

end PathQuery.Unicode
