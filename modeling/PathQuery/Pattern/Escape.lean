import PathQuery.Pattern.Ast
import PathQuery.Text.Rest

/-! # Escapes in patterns

What may follow a backslash: a character by its code point, a class of characters, an
assertion, or a mark that stands for itself.  While blanks are ignored, they and the
comments from `#` to the end of a line may also stand between the parts of an
escape. -/
namespace PathQuery.Pattern.Reader

open Text

/-- The text after the blanks and comments it starts with; `comment` tells that it
starts inside a comment. -/
def dropIgnored : (comment : Bool) → List Char → List Char
  | _, [] => []
  | true, c :: s => dropIgnored (c != '\n') s
  | false, c :: s =>
    if isBlank c then dropIgnored false s
    else if c = '#' then dropIgnored true s
    else c :: s

theorem length_dropIgnored_le (comment : Bool) (s : List Char) :
    (dropIgnored comment s).length ≤ s.length := by
  induction s generalizing comment with
  | nil => cases comment <;> simp [dropIgnored]
  | cons c s ih =>
    cases comment with
    | true => simpa [dropIgnored] using Nat.le_succ_of_le (ih _)
    | false =>
      simp only [dropIgnored]
      split
      · exact Nat.le_succ_of_le (ih _)
      · split
        · exact Nat.le_succ_of_le (ih _)
        · exact Nat.le_refl _

/-- The text after what `ignoreSpace` lets a reader pass over. -/
def skipIgnored (ignoreSpace : Bool) (s : List Char) : NoLonger s :=
  if ignoreSpace then ⟨dropIgnored false s, length_dropIgnored_le false s⟩
  else .self s

/-- The characters up to a closing brace, and the text after it. -/
def braced? (x : Bool) (s : List Char) : Option (List Char × Shorter s) :=
  match skipIgnored x s with
  | ⟨[], _⟩ => none
  | ⟨c :: r, h⟩ =>
    if c = '\x7d' then some ([], ⟨r, h⟩)
    else (braced? x r).map fun p => (c :: p.1, p.2.trans h)
termination_by s.length

/-! ### Code points -/

/-- The number that hexadecimal digits write. -/
def hexNumber? (ds : List Char) : Option Nat :=
  if ds = [] then none
  else ds.foldlM (fun n d => (hexDigit? d).map (16 * n + ·)) 0

/-- `n` characters taken off the front. -/
def takeExactly? (x : Bool) : Nat → (s : List Char) → Option (List Char × NoLonger s)
  | 0, s => some ([], .self s)
  | n + 1, s =>
    match skipIgnored x s with
    | ⟨[], _⟩ => none
    | ⟨c :: r, h⟩ =>
      (takeExactly? x n r).map fun p =>
        (c :: p.1, p.2.trans h)

/-- A code point of `width` digits, or of any number of digits in braces.  One of two
digits without braces counts as a byte. -/
def codePoint? (x : Bool) (width : Nat) (s : List Char) : Option (Literal × NoLonger s) :=
  match skipIgnored x s with
  | ⟨t, ht⟩ =>
    match afterChar? '\x7b' t with
    | some ⟨r, hr⟩ =>
      match braced? x r with
      | none => none
      | some (ds, u) =>
        ((hexNumber? ds).bind charOf?).map fun c =>
          (⟨c, false⟩, ((u.trans hr).transLe ht).noLonger)
    | none =>
      match takeExactly? x width t with
      | none => none
      | some (ds, u) =>
        ((hexNumber? ds).bind charOf?).map fun c => (⟨c, width == 2⟩, u.transLe ht)

/-! ### Classes -/

/-- The two sides of a text at the first place where `mark` stands. -/
def splitAt? (mark : List Char) : List Char → Option (List Char × List Char)
  | [] => none
  | c :: s =>
    if mark.isPrefixOf (c :: s) then some ([], (c :: s).drop mark.length)
    else (splitAt? mark s).map fun p => (c :: p.1, p.2)

/-- The class that the text in the braces names: a name alone, or a name and a value
with `!=`, `:` or `=` between them. -/
def unicodeClass (name : List Char) : UnicodeClass :=
  match splitAt? ['!', '='] name, (splitAt? [':'] name).or (splitAt? ['='] name) with
  | some (name, value), _ => .valued name value true
  | none, some (name, value) => .valued name value false
  | none, none => .named name

/-- A class by name: one letter, or a text in braces. -/
def unicodeClass? (x : Bool) (s : List Char) : Option (UnicodeClass × NoLonger s) :=
  match skipIgnored x s with
  | ⟨[], _⟩ => none
  | ⟨c :: r, h⟩ =>
    if c = '\x7b' then
      (braced? x r).map fun p =>
        (unicodeClass p.1, ⟨p.2.1, by have := p.2.2; simp only [List.length_cons] at h; omega⟩)
    else if c = '\\' then none
    else some (.named [c], Shorter.noLonger ⟨r, h⟩)

/-- The class with one letter and whether the letter, a capital, negates it. -/
def perlClass? (c : Char) : Option (PerlClass × Bool) :=
  if c = 'd' then some (.digit, false)
  else if c = 'D' then some (.digit, true)
  else if c = 's' then some (.space, false)
  else if c = 'S' then some (.space, true)
  else if c = 'w' then some (.word, false)
  else if c = 'W' then some (.word, true)
  else none

/-! ### Assertions -/

/-- The assertion with the given name in braces after `\b`. -/
def boundary? (name : List Char) : Option Assertion :=
  if name = "start".toList then some .wordStart
  else if name = "end".toList then some .wordEnd
  else if name = "start-half".toList then some .wordStartHalf
  else if name = "end-half".toList then some .wordEndHalf
  else none

/-- What follows `\b`: a name in braces, or nothing.  Braces that start with neither a
letter nor a dash hold a count and are left alone. -/
def wordBoundary? (x : Bool) (s : List Char) : Option (Assertion × NoLonger s) :=
  match afterChar? '\x7b' s with
  | none => some (.wordBoundary, .self s)
  | some ⟨r, hr⟩ =>
    if (skipIgnored x r).1.head?.any fun c => isAsciiLetter c || c == '-' then
      match braced? x r with
      | none => none
      | some (name, u) => (boundary? name).map fun a => (a, (u.trans hr).noLonger)
    else some (.wordBoundary, .self s)

/-! ### All escapes -/

/-- Whether `c` stands for itself after a backslash: every ASCII character does, except
letters, digits and the angle brackets. -/
def isMark (c : Char) : Bool :=
  c.toNat < 0x80 && !isAsciiLetter c && !isDigit c && c != '<' && c != '>'

/-- The control character of a letter. -/
def control? (c : Char) : Option Char :=
  if c = 'a' then some '\x07'
  else if c = 'f' then some '\x0c'
  else if c = 't' then some '\t'
  else if c = 'n' then some '\n'
  else if c = 'r' then some '\r'
  else if c = 'v' then some '\x0b'
  else none

/-- The assertion of a letter or an angle bracket, except for `\b`. -/
def assertion? (c : Char) : Option Assertion :=
  if c = 'A' then some .textStart
  else if c = 'z' then some .textEnd
  else if c = 'B' then some .notWordBoundary
  else if c = '<' then some .wordStart
  else if c = '>' then some .wordEnd
  else none

/-- The number of digits of a code point after a letter. -/
def codeWidth? (c : Char) : Option Nat :=
  if c = 'x' then some 2 else if c = 'u' then some 4 else if c = 'U' then some 8 else none

/-- An escape without its backslash, taken off the front. -/
def escape? (x : Bool) (s : List Char) : Option (Ast × Shorter s) :=
  match s with
  | [] => none
  | c :: r =>
    match codeWidth? c with
    | some width =>
      (codePoint? x width r).map fun p => (.literal p.1, p.2.shorterCons)
    | none =>
      if c = 'p' ∨ c = 'P' then
        (unicodeClass? x r).map fun p =>
          (.unicode p.1 (c = 'P'), p.2.shorterCons)
      else if c = 'b' then
        (wordBoundary? x r).map fun p => (.assertion p.1, p.2.shorterCons)
      else
        let simple : Option Ast :=
          if isMark c then some (.literal ⟨c, false⟩)
          else
            ((perlClass? c).map fun p => Ast.perl p.1 p.2).or
              (((control? c).map fun c => Ast.literal ⟨c, false⟩).or
                ((assertion? c).map Ast.assertion))
        simple.map fun a => (a, .tail r)

end PathQuery.Pattern.Reader
