import PathQuery.Pattern.Expression
import PathQuery.Pattern.Reader
import PathQuery.Unicode.CaseFold
import PathQuery.Unicode.Query

/-! # Resolving flags

From the tree of a pattern to an expression.  Flags hold from where they are set to the
end of the group, across its alternatives, so the flags in force are threaded from left
to right.  A pattern whose classes are ASCII only, with the flag `u` off, must
not be able to match a part of a character: there the dot, every negated class and bytes
above 127 are refused. -/
namespace PathQuery.Pattern

open Text

/-- The flags in force that matter to what a pattern stands for. -/
structure Modes where
  ignoreCase : Bool := false
  multiLine : Bool := false
  dotAll : Bool := false
  swapGreed : Bool := false
  unicode : Bool := true
  crlf : Bool := false
  deriving DecidableEq, Repr

namespace Modes

/-- The modes with one flag set. -/
def set (m : Modes) : Flag × Bool → Modes
  | (.ignoreCase, on) => { m with ignoreCase := on }
  | (.multiLine, on) => { m with multiLine := on }
  | (.dotAll, on) => { m with dotAll := on }
  | (.unicode, on) => { m with unicode := on }
  | (.crlf, on) => { m with crlf := on }
  | (.swapGreed, on) => { m with swapGreed := on }
  | (.ignoreSpace, _) => m

/-- The modes with some flags set. -/
def setAll (m : Modes) (fs : Switches) : Modes := fs.foldl set m

/-- A set with the other case of its members, if case is ignored. -/
def fold (m : Modes) (s : CharSet) : CharSet :=
  if !m.ignoreCase then s
  else if m.unicode then Unicode.foldCase s
  else Unicode.foldAsciiCase s

/-- A set or its complement.  Complements need the flag `u`. -/
def negate? (m : Modes) (negated : Bool) (s : CharSet) : Option CharSet :=
  if !negated then some s
  else if m.unicode then some s.complement
  else none

/-- The set of a class with one letter. -/
def perl (m : Modes) : PerlClass → CharSet
  | .digit => if m.unicode then Unicode.decimalDigit else Reader.rangesOf [('0', '9')]
  | .space => if m.unicode then blank else Reader.rangesOf [('\t', '\r'), (' ', ' ')]
  | .word =>
    if m.unicode then Unicode.word
    else Reader.rangesOf [('0', '9'), ('A', 'Z'), ('_', '_'), ('a', 'z')]

/-- The set of a class by name. -/
def named? (m : Modes) (c : UnicodeClass) (negated : Bool) : Option CharSet :=
  if !m.unicode then none
  else
    match c with
    | .named name => (Unicode.named? name).bind fun s => m.negate? negated (m.fold s)
    | .valued name value differs =>
      (Unicode.valued? name value).bind fun s => m.negate? (negated != differs) (m.fold s)

/-- A character in a class.  Without the flag `u` it has to be an ASCII one. -/
def classChar? (m : Modes) (l : Literal) : Option Char :=
  if m.unicode || l.char.toNat < 0x80 then some l.char else none

/-- The expression of a set. -/
def ofSet (m : Modes) (s : CharSet) : Expression := .ofSet s !m.unicode

/-- A character outside of classes.  Without the flag `u`, a byte has to be an ASCII
character, and only ASCII letters have another case. -/
def char? (m : Modes) (l : Literal) : Option Expression :=
  if m.unicode || l.char.toNat < 0x80 then some (m.ofSet (m.fold (.single l.char)))
  else if l.byte then none
  else some (.literal [l.char])

/-- The set of the dot: every character but the ends of lines, or every character. -/
def dot? (m : Modes) : Option CharSet :=
  if !m.unicode then none
  else if m.dotAll then some .all
  else if m.crlf then some (CharSet.ofList ['\n', '\r']).complement
  else some (CharSet.single '\n').complement

/-- The condition that an assertion stands for. -/
def look (m : Modes) : Assertion → Look
  | .lineStart => if m.multiLine then (if m.crlf then .crlfStart else .lineStart) else .textStart
  | .lineEnd => if m.multiLine then (if m.crlf then .crlfEnd else .lineEnd) else .textEnd
  | .textStart => .textStart
  | .textEnd => .textEnd
  | .wordBoundary => .wordBoundary m.unicode
  | .notWordBoundary => .notWordBoundary m.unicode
  | .wordStart => .wordStart m.unicode
  | .wordEnd => .wordEnd m.unicode
  | .wordStartHalf => .wordStartHalf m.unicode
  | .wordEndHalf => .wordEndHalf m.unicode

end Modes

/-- Two sets combined. -/
def SetOp.apply (s t : CharSet) : SetOp → CharSet
  | .inter => s.inter t
  | .diff => s.diff t
  | .symmDiff => s.symmDiff t

mutual

/-- The set of an item of a class. -/
def ClassItem.chars? (m : Modes) : ClassItem → Option CharSet
  | .literal l => (m.classChar? l).map .single
  | .range a b => do
    let a ← m.classChar? a
    let b ← m.classChar? b
    return .between a b
  | .ascii s negated => m.negate? negated (m.fold s)
  | .perl c negated => m.negate? negated (m.perl c)
  | .unicode c negated => m.named? c negated
  | .bracketed c negated => (c.chars? m).bind fun s => m.negate? negated (m.fold s)

/-- The set of the inside of a class.  Operands take up the other case of their members
before they are combined. -/
def ClassSet.chars? (m : Modes) : ClassSet → Option CharSet
  | .items is => (itemsChars? m is).map .unionAll
  | .op o left right => do
    let s ← left.chars? m
    let t ← right.chars? m
    return o.apply (m.fold s) (m.fold t)

/-- The sets of the items of a class. -/
def itemsChars? (m : Modes) : List ClassItem → Option (List CharSet)
  | [] => some []
  | i :: is => do
    let s ← i.chars? m
    let ss ← itemsChars? m is
    return s :: ss

end

mutual

/-- The expression of a pattern under the modes in force, and the modes in force after
it. -/
def Ast.resolve? (m : Modes) : Ast → Option (Expression × Modes)
  | .flags fs => some (.empty, m.setAll fs)
  | .literal l => (m.char? l).map (·, m)
  | .dot => m.dot?.map fun s => (m.ofSet s, m)
  | .assertion a => some (.look (m.look a), m)
  | .perl c negated => (m.negate? negated (m.perl c)).map fun s => (m.ofSet s, m)
  | .unicode c negated => (m.named? c negated).map fun s => (m.ofSet s, m)
  | .bracketed c negated =>
    ((c.chars? m).bind fun s => m.negate? negated (m.fold s)).map fun s => (m.ofSet s, m)
  | .repetition a least most lazy =>
    (a.resolve? m).map fun p => (.repeated p.1 least most (lazy != m.swapGreed), p.2)
  | .capture _ a => (a.resolve? m).map fun p => (.capture p.1, m)
  | .group fs a => (a.resolve? (m.setAll fs)).map fun p => (p.1, m)
  | .alternation as => (resolveAll? m as).map fun p => (.choice p.1, p.2)
  | .concat as => (resolveAll? m as).map fun p => (.sequence p.1, p.2)

/-- The expressions of patterns one after the other. -/
def resolveAll? (m : Modes) : List Ast → Option (List Expression × Modes)
  | [] => some ([], m)
  | a :: as =>
    match a.resolve? m with
    | none => none
    | some (e, m) => (resolveAll? m as).map fun p => (e :: p.1, p.2)

end

end PathQuery.Pattern
