import PathQuery.Unicode.Lookup

/-! # The syntax of patterns

The tree that a pattern is read into before its flags are resolved. -/
namespace PathQuery.Pattern

/-- The flags that change how the rest of a group is read. -/
inductive Flag where
  | ignoreCase
  | multiLine
  | dotAll
  | swapGreed
  | unicode
  | crlf
  | ignoreSpace
  deriving DecidableEq, Repr

/-- Flags that are switched on or off together, in the order they are written. -/
abbrev Switches := List (Flag × Bool)

/-- A literal character.  `byte` marks one that is written as a byte, `\x` and two
digits. -/
structure Literal where
  char : Char
  byte : Bool := false
  deriving DecidableEq, Repr

/-- Conditions on a place, before their flags are resolved. -/
inductive Assertion where
  | lineStart
  | lineEnd
  | textStart
  | textEnd
  | wordBoundary
  | notWordBoundary
  | wordStart
  | wordEnd
  | wordStartHalf
  | wordEndHalf
  deriving DecidableEq, Repr

/-- The classes with one letter: digits, white space and characters of words. -/
inductive PerlClass where
  | digit
  | space
  | word
  deriving DecidableEq, Repr

/-- A class by its Unicode name, or by the name and value of a property.  `differs` marks
the class of the characters whose property has another value. -/
inductive UnicodeClass where
  | named (name : List Char)
  | valued (name value : List Char) (differs : Bool)
  deriving DecidableEq, Repr

/-- The ways of combining two sets. -/
inductive SetOp where
  | inter
  | diff
  | symmDiff
  deriving DecidableEq, Repr

mutual

/-- An item of a bracketed class. -/
inductive ClassItem where
  | literal (l : Literal)
  | range (first last : Literal)
  | ascii (chars : Text.CharSet) (negated : Bool)
  | perl (c : PerlClass) (negated : Bool)
  | unicode (c : UnicodeClass) (negated : Bool)
  | bracketed (c : ClassSet) (negated : Bool)

/-- The inside of a bracketed class: items, or two sets combined. -/
inductive ClassSet where
  | items (is : List ClassItem)
  | op (o : SetOp) (left right : ClassSet)

end

/-- A pattern.  A repetition is marked `lazy` if a question mark follows it. -/
inductive Ast where
  | flags (s : Switches)
  | literal (l : Literal)
  | dot
  | assertion (a : Assertion)
  | perl (c : PerlClass) (negated : Bool)
  | unicode (c : UnicodeClass) (negated : Bool)
  | bracketed (c : ClassSet) (negated : Bool)
  | repetition (a : Ast) (least : Nat) (most : Option Nat) (lazy : Bool)
  | capture (name : List Char) (a : Ast)
  | group (s : Switches) (a : Ast)
  | alternation (as : List Ast)
  | concat (as : List Ast)

/-! ### Nesting -/

mutual

/-- How deep an item of a class is nested. -/
def ClassItem.depth : ClassItem → Nat
  | .bracketed c _ => c.depth + 1
  | _ => 0

/-- How deep the inside of a class is nested.  A single item stands for itself. -/
def ClassSet.depth : ClassSet → Nat
  | .items is => if is.length ≤ 1 then itemsDepth is else itemsDepth is + 1
  | .op _ l r => max l.depth r.depth + 1

/-- The depth of the deepest item. -/
def itemsDepth : List ClassItem → Nat
  | [] => 0
  | i :: is => max i.depth (itemsDepth is)

end

mutual

/-- How deep a pattern is nested. -/
def Ast.depth : Ast → Nat
  | .bracketed c _ => c.depth + 1
  | .repetition a _ _ _ | .capture _ a | .group _ a => a.depth + 1
  | .alternation as | .concat as =>
    if as.length ≤ 1 then depths as else depths as + 1
  | _ => 0

/-- The depth of the deepest of several patterns. -/
def depths : List Ast → Nat
  | [] => 0
  | a :: as => max a.depth (depths as)

end

mutual

/-- The names of the groups in a pattern; a group without one counts as nameless. -/
def Ast.names : Ast → List (List Char)
  | .repetition a _ _ _ | .group _ a => a.names
  | .capture name a => if name = [] then a.names else name :: a.names
  | .alternation as | .concat as => namesOf as
  | _ => []

/-- The names of the groups in several patterns. -/
def namesOf : List Ast → List (List Char)
  | [] => []
  | a :: as => a.names ++ namesOf as

end

end PathQuery.Pattern
