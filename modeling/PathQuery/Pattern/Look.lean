import PathQuery.Unicode.Lookup

/-! # Conditions on places

The conditions that a pattern can put on the place between two characters: the start
and end of the text or of a line, and the bounds of words. -/
namespace PathQuery

/-- A condition on the place between two characters. -/
inductive Look where
  | textStart
  | textEnd
  | lineStart
  | lineEnd
  | crlfStart
  | crlfEnd
  | wordBoundary (unicode : Bool)
  | notWordBoundary (unicode : Bool)
  | wordStart (unicode : Bool)
  | wordEnd (unicode : Bool)
  | wordStartHalf (unicode : Bool)
  | wordEndHalf (unicode : Bool)
  deriving DecidableEq, Repr

/-- A place in a text: the characters before and after it. -/
structure Place where
  before : Option Char
  after : Option Char
  deriving DecidableEq, Repr

namespace Look

/-- Whether `c` is a character of words, among all characters or among ASCII ones. -/
def isWord (unicode : Bool) (c : Char) : Bool :=
  if unicode then Unicode.isWord c else c.toNat < 0x80 && Unicode.isWord c

/-- Whether the place satisfies the condition. -/
def holdsAt (p : Place) : Look → Bool
  | textStart => p.before.isNone
  | textEnd => p.after.isNone
  | lineStart => p.before.isNone || p.before == some '\n'
  | lineEnd => p.after.isNone || p.after == some '\n'
  | crlfStart =>
    p.before.isNone || p.before == some '\n' || (p.before == some '\r' && p.after != some '\n')
  | crlfEnd =>
    p.after.isNone || p.after == some '\r' || (p.after == some '\n' && p.before != some '\r')
  | wordBoundary u => p.before.any (isWord u) != p.after.any (isWord u)
  | notWordBoundary u => p.before.any (isWord u) == p.after.any (isWord u)
  | wordStart u => !p.before.any (isWord u) && p.after.any (isWord u)
  | wordEnd u => p.before.any (isWord u) && !p.after.any (isWord u)
  | wordStartHalf u => !p.before.any (isWord u)
  | wordEndHalf u => !p.after.any (isWord u)

/-- Whether the condition is about words of any script. -/
def isAboutWords : Look → Bool
  | wordBoundary u | notWordBoundary u | wordStart u | wordEnd u | wordStartHalf u |
    wordEndHalf u => u
  | _ => false

end Look

end PathQuery
