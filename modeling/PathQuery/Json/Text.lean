import PathQuery.Json.Basic

/-! # JSON text

The two layouts in which a value is written: compact, without any space, and
indented, one item or member to a line.  In strings only the quote, the backslash and
control characters are escaped. -/
namespace PathQuery
namespace Json

/-- A digit of a number below 16. -/
def hexDigit (n : Nat) : Char :=
  if n < 10 then Char.ofNat ('0'.toNat + n) else Char.ofNat ('a'.toNat + (n - 10))

/-- A character inside a string. -/
def escapeChar (c : Char) : List Char :=
  if c = '"' then ['\\', '"']
  else if c = '\\' then ['\\', '\\']
  else if c = '\n' then ['\\', 'n']
  else if c = '\r' then ['\\', 'r']
  else if c = '\t' then ['\\', 't']
  else if c = '\x08' then ['\\', 'b']
  else if c = '\x0c' then ['\\', 'f']
  else if c.toNat < 0x20 then
    ['\\', 'u', '0', '0', hexDigit (c.toNat / 16), hexDigit (c.toNat % 16)]
  else [c]

/-- A string in quotes. -/
def stringChars (s : String) : List Char := '"' :: s.toList.flatMap escapeChar ++ ['"']

/-- The text of a scalar; composites have none of their own. -/
def scalarChars : Json → List Char
  | null => ['n', 'u', 'l', 'l']
  | bool true => ['t', 'r', 'u', 'e']
  | bool false => ['f', 'a', 'l', 's', 'e']
  | number n => n.chars
  | string s => stringChars s
  | array _ | object _ => []

mutual

/-- The compact text of a value. -/
def chars : Json → List Char
  | array xs => '[' :: itemChars xs ++ [']']
  | object ms => '\x7b' :: memberChars ms ++ ['\x7d']
  | v => v.scalarChars

/-- Items with commas between them. -/
def itemChars : List Json → List Char
  | [] => []
  | [x] => chars x
  | x :: y :: xs => chars x ++ ',' :: itemChars (y :: xs)

/-- Members with commas between them. -/
def memberChars : List (String × Json) → List Char
  | [] => []
  | [(k, v)] => stringChars k ++ ':' :: chars v
  | (k, v) :: m :: ms => stringChars k ++ ':' :: chars v ++ ',' :: memberChars (m :: ms)

end

/-- The compact text of a value, as a string. -/
def text (v : Json) : String := String.ofList v.chars

/-- A new line, indented to a depth; each level is two spaces wide. -/
def newLine (depth : Nat) : List Char := '\n' :: List.replicate (2 * depth) ' '

mutual

/-- The indented text of a value that stands at a depth. -/
def indentedChars (depth : Nat) : Json → List Char
  | array [] => ['[', ']']
  | array (x :: xs) => '[' :: indentedItems (depth + 1) (x :: xs) ++ newLine depth ++ [']']
  | object [] => ['\x7b', '\x7d']
  | object (m :: ms) =>
    '\x7b' :: indentedMembers (depth + 1) (m :: ms) ++ newLine depth ++ ['\x7d']
  | v => v.scalarChars

/-- Items, each on a line of its own. -/
def indentedItems (depth : Nat) : List Json → List Char
  | [] => []
  | [x] => newLine depth ++ indentedChars depth x
  | x :: y :: xs => newLine depth ++ indentedChars depth x ++ ',' :: indentedItems depth (y :: xs)

/-- Members, each on a line of its own. -/
def indentedMembers (depth : Nat) : List (String × Json) → List Char
  | [] => []
  | [(k, v)] => newLine depth ++ stringChars k ++ ':' :: ' ' :: indentedChars depth v
  | (k, v) :: m :: ms =>
    newLine depth ++ stringChars k ++ ':' :: ' ' :: indentedChars depth v ++
      ',' :: indentedMembers depth (m :: ms)

end

/-- The indented text of a value, as a string. -/
def indentedText (v : Json) : String := String.ofList (v.indentedChars 0)

example : (array [ofInt 1, object [("a", null)], string "x\n"]).text =
    "[1,\x7b\"a\":null\x7d,\"x\\n\"]" := by decide +kernel

end Json
end PathQuery
