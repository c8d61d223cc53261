import PathQuery.Json.Document
import PathQuery.Json.Text
import PathQuery.Text.Quoted

/-! # Names and literals

How names and literals stand in a query.  A name is bare if it consists of letters,
numerals, underscores and dashes, and is not made of digits only; any other name is
quoted.  A bare literal gets its type from its text: `true`, `false` and `null`, then
whole numbers in the signed 64-bit range, then finite doubles, and last strings. -/
namespace PathQuery.Word

open Text

/-- Whether `c` may stand in a bare name. -/
def isNameChar (c : Char) : Bool := isAlphanumeric c || c == '_' || c == '-'

/-- The characters other than blanks that end a bare literal. -/
def delimiters : List Char := ['[', ']', '(', ')', '&', '|', '"', '!', '=', '<', '>', '~']

/-- Whether `c` ends a bare literal. -/
def isDelimiter (c : Char) : Bool := isBlank c || delimiters.contains c

/-- The number that a bare literal writes, if it writes one. -/
def number? (s : List Char) : Option Number :=
  match (Decimal.readInt? s).filter Number.fitsSigned with
  | some n => Number.ofInt? n
  | none => ((Decimal.read? s).bind Decimal.toDouble?).map .double

/-- The value of a bare literal. -/
def typed (s : List Char) : Document :=
  if s = "true".toList then ⟨.bool true, trivial⟩
  else if s = "false".toList then ⟨.bool false, trivial⟩
  else if s = "null".toList then ⟨.null, trivial⟩
  else
    match number? s with
    | some n => ⟨.number n, trivial⟩
    | none => .ofString (String.ofList s)

/-- Whether a name can stand without quotes.  Digits alone would be an index. -/
def isBareName (s : List Char) : Bool :=
  !s.isEmpty && s.all isNameChar && !s.all isDigit

/-- A name, in quotes if need be. -/
def nameChars (name : String) : List Char :=
  if isBareName name.toList then name.toList else Quoted.write name.toList

/-- Whether a string can stand without quotes and be read as a string. -/
def isBareString (s : List Char) : Bool :=
  !s.isEmpty && !s.any isDelimiter &&
    match (typed s).value with
    | .string _ => true
    | _ => false

/-- A literal: strings in quotes if need be, other values as JSON. -/
def literalChars : Json → List Char
  | .string s => if isBareString s.toList then s.toList else Quoted.write s.toList
  | v => v.chars

end PathQuery.Word
