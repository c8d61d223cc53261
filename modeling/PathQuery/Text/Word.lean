import PathQuery.Text.Alphabetic
import PathQuery.Text.Numeric

/-! # Letters and numerals

The test behind names that need no quotes.  ASCII characters are settled without a
look into the tables. -/
namespace PathQuery.Text

/-- Whether `c` is an ASCII decimal digit. -/
def isDigit (c : Char) : Bool := '0' ≤ c && c ≤ '9'

/-- Whether `c` is an ASCII letter. -/
def isAsciiLetter (c : Char) : Bool := ('a' ≤ c && c ≤ 'z') || ('A' ≤ c && c ≤ 'Z')

/-- The lower case of an ASCII letter; other characters stay as they are. -/
def lowerCase (c : Char) : Char :=
  if 'A' ≤ c ∧ c ≤ 'Z' then Char.ofNat (c.toNat + 0x20) else c

/-- Whether `c` is alphabetic. -/
def isAlphabetic (c : Char) : Bool :=
  if c.toNat < 0x80 then isAsciiLetter c else alphabetic.contains c

/-- Whether `c` is alphabetic or numeric. -/
def isAlphanumeric (c : Char) : Bool :=
  if c.toNat < 0x80 then isAsciiLetter c || isDigit c
  else alphabetic.contains c || numeric.contains c

end PathQuery.Text
