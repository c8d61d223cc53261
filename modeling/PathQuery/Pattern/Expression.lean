import PathQuery.Pattern.Look
import PathQuery.Text.CharSet

/-! # Expressions

A pattern without its flags.  An expression is put together by `ofSet`, `sequence`,
`choice` and `repeated`, which keep it simple: a sequence holds no sequence, no empty
part and no two literals side by side, a choice holds no choice, and what all the
alternatives of a choice begin with stands before it.  How large a pattern is depends on
this form; what it matches does not. -/
namespace PathQuery

open Text

/-- An expression.  A set is marked `ascii` if it was written under the flag that bounds
classes to ASCII, a repetition is marked `lazy` if it prefers fewer copies, and `capture`
is a part that is remembered. -/
inductive Expression where
  | empty
  | literal (cs : List Char)
  | set (s : CharSet) (ascii : Bool)
  | look (l : Look)
  | repetition (e : Expression) (least : Nat) (most : Option Nat) (lazy : Bool)
  | capture (e : Expression)
  | concat (es : List Expression)
  | alternation (es : List Expression)
  deriving Repr

namespace Expression

/-! ### Sets and sequences -/

/-- One character of a set.  A set of one character is a literal. -/
def ofSet (s : CharSet) (ascii : Bool) : Expression :=
  match s.ranges with
  | [] => set .empty true
  | [(lo, hi)] => if lo = hi then literal [Char.ofNat lo] else set s ascii
  | _ => set s ascii

/-- The expression that matches nothing. -/
def never : Expression := ofSet .empty true

/-- The parts of a sequence; any other expression is its only part. -/
def parts : Expression → List Expression
  | empty => []
  | concat es => es
  | e => [e]

/-- Parts with neighbouring literals made one. -/
def joinLiterals : List Expression → List Expression
  | [] => []
  | e :: es =>
    match e, joinLiterals es with
    | literal cs, literal ds :: rest => literal (cs ++ ds) :: rest
    | e, rest => e :: rest

/-- Expressions one after the other. -/
def sequence (es : List Expression) : Expression :=
  match joinLiterals (es.flatMap parts) with
  | [] => empty
  | [e] => e
  | es => concat es

/-! ### Equality -/

mutual

/-- Whether two expressions are the same.  No two captures are, for each is remembered
on its own. -/
def same : Expression → Expression → Bool
  | empty, empty => true
  | literal cs, literal ds => cs == ds
  | set s a, set t b => s == t && a == b
  | look l, look k => l == k
  | repetition e least most z, repetition f least' most' z' =>
    least == least' && most == most' && z == z' && same e f
  | concat es, concat fs => sameAll es fs
  | alternation es, alternation fs => sameAll es fs
  | _, _ => false

/-- Whether two lists hold the same expressions. -/
def sameAll : List Expression → List Expression → Bool
  | [], [] => true
  | e :: es, f :: fs => same e f && sameAll es fs
  | _, _ => false

end

/-- The expressions that two lists have in common at their start. -/
def commonStart : List Expression → List Expression → List Expression
  | e :: es, f :: fs => if same e f then e :: commonStart es fs else []
  | _, _ => []

/-! ### Choices -/

/-- The alternatives of a choice; any other expression is its only alternative. -/
def alternatives : Expression → List Expression
  | alternation es => es
  | e => [e]

/-- The character of a literal that has just one. -/
def char? : Expression → Option Char
  | literal [c] => some c
  | _ => none

/-- The set of an expression that is one. -/
def set? : Expression → Option CharSet
  | set s _ => some s
  | _ => none

/-- The parts of a sequence, if the expression is one. -/
def concat? : Expression → Option (List Expression)
  | concat es => some es
  | _ => none

/-- A choice as it stands, unless it is one among characters or among sets. -/
def plainChoice (es : List Expression) : Expression :=
  match es with
  | [] => never
  | [e] => e
  | es =>
    match es.mapM char?, es.mapM set? with
    | some cs, _ => ofSet (.ofList cs) false
    | none, some ss => ofSet (.unionAll ss) false
    | none, none => alternation es

/-- What several sequences have in common at their start. -/
def sharedStart : List (List Expression) → List Expression
  | [] => []
  | es :: rest => rest.foldl commonStart es

/-- A choice.  If all alternatives are sequences, what they have in common at their start
is taken out. -/
def choice (es : List Expression) : Expression :=
  let es := es.flatMap alternatives
  match es, es.mapM concat? with
  | _ :: _ :: _, some seqs =>
    match sharedStart seqs with
    | [] => plainChoice es
    | shared =>
      let rests := seqs.map fun s => sequence (s.drop shared.length)
      sequence (shared ++ [plainChoice (rests.flatMap alternatives)])
  | es, _ => plainChoice es

/-! ### Lengths and repetition -/

mutual

/-- Whether the expression can match nothing but the empty text. -/
def takesNothing : Expression → Bool
  | empty => true
  | literal _ => false
  | set _ _ => false
  | look _ => true
  | repetition e _ _ _ => takesNothing e
  | capture e => takesNothing e
  | concat es => allTakeNothing es
  | alternation es => allTakeNothing es

/-- Whether none of the expressions can match anything but the empty text. -/
def allTakeNothing : List Expression → Bool
  | [] => true
  | e :: es => takesNothing e && allTakeNothing es

end

/-- At least `least` and at most `most` copies.  An expression that takes nothing needs
no second copy. -/
def repeated (e : Expression) (least : Nat) (most : Option Nat) (lazy : Bool) : Expression :=
  let (least, most) :=
    if takesNothing e then (min least 1, some (min (most.getD 1) 1)) else (least, most)
  if most = some 0 then empty
  else if least = 1 ∧ most = some 1 then e
  else repetition e least most lazy

mutual

/-- Whether the expression can match at all and takes at least one byte; `none` if a part
that is needed can never match. -/
def takesSome? : Expression → Option Bool
  | empty => some false
  | literal _ => some true
  | set s _ => if s.ranges = [] then none else some true
  | look _ => some false
  | repetition e least _ _ => (takesSome? e).map fun b => b && least != 0
  | capture e => takesSome? e
  | concat es => anyTakesSome? es
  | alternation es => allTakeSome? es

/-- Whether one of the expressions takes at least one byte. -/
def anyTakesSome? : List Expression → Option Bool
  | [] => some false
  | e :: es =>
    match takesSome? e, anyTakesSome? es with
    | some a, some b => some (a || b)
    | _, _ => none

/-- Whether all of the expressions take at least one byte. -/
def allTakeSome? : List Expression → Option Bool
  | [] => some true
  | e :: es =>
    match takesSome? e, allTakeSome? es with
    | some a, some b => some (a && b)
    | _, _ => none

end

/-! ### Anchors -/

mutual

/-- Whether every match is bound to the start of the text. -/
def isBoundToStart : Expression → Bool
  | look l => l == .textStart
  | repetition e least _ _ => least != 0 && isBoundToStart e
  | capture e => isBoundToStart e
  | concat es => firstIsBound es
  | alternation es => allAreBoundToStart es
  | empty | literal _ | set _ _ => false

/-- Whether one of the parts that a sequence starts with is bound to the start of the
text. -/
def firstIsBound : List Expression → Bool
  | [] => false
  | e :: es => isBoundToStart e || (takesNothing e && firstIsBound es)

/-- Whether every alternative is bound to the start of the text. -/
def allAreBoundToStart : List Expression → Bool
  | [] => true
  | e :: es => isBoundToStart e && allAreBoundToStart es

end

mutual

/-- Whether every match is bound to the end of the text. -/
def isBoundToEnd : Expression → Bool
  | look l => l == .textEnd
  | repetition e least _ _ => least != 0 && isBoundToEnd e
  | capture e => isBoundToEnd e
  | concat es => lastIsBound es
  | alternation es => allAreBoundToEnd es
  | empty | literal _ | set _ _ => false

/-- Whether one of the parts that a sequence ends with is bound to the end of the text. -/
def lastIsBound : List Expression → Bool
  | [] => false
  | e :: es => lastIsBound es || (allTakeNothing es && isBoundToEnd e)

/-- Whether every alternative is bound to the end of the text. -/
def allAreBoundToEnd : List Expression → Bool
  | [] => true
  | e :: es => isBoundToEnd e && allAreBoundToEnd es

end

mutual

/-- Whether the expression has a condition on words of any script. -/
def looksForWords : Expression → Bool
  | look l => l.isAboutWords
  | repetition e _ _ _ => looksForWords e
  | capture e => looksForWords e
  | concat es => anyLooksForWords es
  | alternation es => anyLooksForWords es
  | empty | literal _ | set _ _ => false

/-- Whether one of the expressions has a condition on words of any script. -/
def anyLooksForWords : List Expression → Bool
  | [] => false
  | e :: es => looksForWords e || anyLooksForWords es

end

end Expression

end PathQuery
