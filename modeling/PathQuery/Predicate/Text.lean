import PathQuery.Predicate.Basic
import PathQuery.Query.Word

/-! # The text of predicates

The canonical text of a predicate.  Conjunction binds more tightly than disjunction and
both group to the left, so an operand is in parentheses only where it would otherwise be
read differently. -/
namespace PathQuery

namespace Comparison

/-- The sign of a comparison. -/
def chars : Comparison → List Char
  | eq => ['=']
  | ne => ['<', '>']
  | gt => ['>']
  | lt => ['<']
  | ge => ['>', '=']
  | le => ['<', '=']

end Comparison

namespace Predicate

/-- Whether the predicate is a disjunction. -/
def isOr : Predicate → Bool
  | or _ _ => true
  | _ => false

/-- Whether the predicate is a conjunction or a disjunction. -/
def isBinary : Predicate → Bool
  | and _ _ | or _ _ => true
  | _ => false

/-- A text in parentheses, if `needed`. -/
def parenthesized (needed : Bool) (s : List Char) : List Char :=
  if needed then '(' :: s ++ [')'] else s

/-- The canonical text of a predicate. -/
def chars : Predicate → List Char
  | compare field op expected =>
    Word.nameChars field ++ op.chars ++ Word.literalChars expected.value
  | like field pattern =>
    Word.nameChars field ++ ['~', '='] ++ Text.Quoted.write pattern.source.toList
  | has field => Word.nameChars field
  | and p q =>
    parenthesized p.isOr p.chars ++ [' ', '&', ' '] ++ parenthesized q.isBinary q.chars
  | or p q => p.chars ++ [' ', '|', ' '] ++ parenthesized q.isOr q.chars
  | not p => '!' :: parenthesized p.isBinary p.chars

/-- The canonical text of a predicate, as a string. -/
def text (p : Predicate) : String := String.ofList p.chars

end Predicate

end PathQuery
