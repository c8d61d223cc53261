import PathQuery.Pattern.Expression

/-! # Regular expressions

Regular expressions over characters, with conditions on the place between two
characters.  A match is searched by partial derivatives: `step` gives what is left of
an expression after it has taken one character, `nullable` says whether it can match
the empty text at a place, and `found` runs both along the text.  Counted repetition
stays symbolic, so a large count costs nothing.

Whether a match exists does not depend on the order of alternatives, on greed or on what
is remembered, so none of these occurs here. -/
namespace PathQuery

open Text

/-- A regular expression.  `rep least most r` is `r` at least `least` times and at most
`most` times, or without end; the counts come first, for most repetitions that are in
progress at once differ in them, and are then told apart without a look at `r`. -/
inductive Regex where
  | empty
  | look (l : Look)
  | chars (s : CharSet)
  | seq (r s : Regex)
  | alt (r s : Regex)
  | rep (least : Nat) (most : Option Nat) (r : Regex)
  deriving DecidableEq, Repr

namespace Regex

/-- One expression after the other, without empty ones. -/
def andThen : Regex → Regex → Regex
  | empty, s => s
  | r, empty => r
  | r, s => seq r s

/-- Whether the expression matches the empty text at a place. -/
def nullable (p : Place) : Regex → Bool
  | empty => true
  | look l => l.holdsAt p
  | chars _ => false
  | seq r s => nullable p r && nullable p s
  | alt r s => nullable p r || nullable p s
  | rep least _ r => least == 0 || nullable p r

/-- What may be left of the expression after it has taken the character `c` at a place.
A repetition whose body is empty there owes no further copies. -/
def step (p : Place) (c : Char) : Regex → List Regex
  | empty => []
  | look _ => []
  | chars s => if s.contains c then [empty] else []
  | seq r s =>
    (step p c r).map (·.andThen s) ++ (if nullable p r then step p c s else [])
  | alt r s => step p c r ++ step p c s
  | rep least most r =>
    if most = some 0 then []
    else
      let more := rep (if nullable p r then 0 else least - 1) (most.map (· - 1)) r
      (step p c r).map (·.andThen more)

/-- Whether one of the expressions in progress, or `r` begun anew at any place from here
on, matches up to some place. -/
def foundFrom (r : Regex) (before : Option Char) (running : List Regex) : List Char → Bool
  | [] => (r :: running).any (nullable ⟨before, none⟩)
  | c :: cs =>
    let states := r :: running
    let p : Place := ⟨before, some c⟩
    states.any (nullable p) ||
      foundFrom r (some c) (states.flatMap (step p c)).eraseDups cs

/-- Whether the expression matches a part of the text. -/
def found (r : Regex) (text : List Char) : Bool := foundFrom r none [] text

/-- The expression that matches just the characters of a text. -/
def ofText : List Char → Regex
  | [] => empty
  | c :: cs => (chars (.single c)).andThen (ofText cs)

end Regex

namespace Expression

mutual

/-- The regular expression for what the expression matches. -/
def regex : Expression → Regex
  | empty => .empty
  | literal cs => .ofText cs
  | set s _ => .chars s
  | look l => .look l
  | repetition e least most _ => .rep least most (regex e)
  | capture e => regex e
  | concat es => inSequence es
  | alternation es => anyOf es

/-- The regular expression for expressions one after the other. -/
def inSequence : List Expression → Regex
  | [] => .empty
  | e :: es => (regex e).andThen (inSequence es)

/-- The regular expression for any one of the expressions. -/
def anyOf : List Expression → Regex
  | [] => .chars .empty
  | e :: es => .alt (regex e) (anyOf es)

end

end Expression

end PathQuery
