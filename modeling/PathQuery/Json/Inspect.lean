import PathQuery.Json.Text
import PathQuery.Text.Shapeless

/-! # Inspecting values

The text in which a value shows its make-up: the kind of each part is named, and
characters that do not print stand as escapes. -/
namespace PathQuery
namespace Json

open Text

/-- Whether the character is shown as it is. -/
def isShown (c : Char) : Bool :=
  if c.toNat < 0x80 then 0x20 ≤ c.toNat && c.toNat < 0x7f else !shapeless.contains c

/-- A character between quotes. -/
def inspectChar (c : Char) : List Char :=
  if c = '\x00' then ['\\', '0']
  else if c = '\t' then ['\\', 't']
  else if c = '\r' then ['\\', 'r']
  else if c = '\n' then ['\\', 'n']
  else if c = '"' then ['\\', '"']
  else if c = '\\' then ['\\', '\\']
  else if isShown c then [c]
  else ['\\', 'u', '\x7b'] ++ Nat.toDigits 16 c.toNat ++ ['\x7d']

/-- A string in quotes. -/
def inspectString (s : String) : List Char := '"' :: s.toList.flatMap inspectChar ++ ['"']

mutual

/-- The text that shows the make-up of a value. -/
def inspect : Json → List Char
  | null => "Null".toList
  | bool b => "Bool(".toList ++ (bool b).chars ++ [')']
  | number n => "Number(".toList ++ n.chars ++ [')']
  | string s => "String(".toList ++ inspectString s ++ [')']
  | array xs => "Array [".toList ++ inspectItems xs ++ [']']
  | object ms => "Object \x7b".toList ++ inspectMembers ms ++ ['\x7d']

/-- Items with commas between them. -/
def inspectItems : List Json → List Char
  | [] => []
  | [x] => inspect x
  | x :: y :: xs => inspect x ++ ',' :: ' ' :: inspectItems (y :: xs)

/-- Members with commas between them. -/
def inspectMembers : List (String × Json) → List Char
  | [] => []
  | [(k, v)] => inspectString k ++ ':' :: ' ' :: inspect v
  | (k, v) :: m :: ms =>
    inspectString k ++ ':' :: ' ' :: inspect v ++ ',' :: ' ' :: inspectMembers (m :: ms)

end

end Json

end PathQuery
