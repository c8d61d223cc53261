import PathQuery.Pattern.Regex
import PathQuery.Pattern.SetSize
import PathQuery.Pattern.WordSize

/-! # The size of a pattern

A pattern is refused when it is too large.  Its size is measured on two automata over
bytes, one that reads forward and remembers captures and one that reads backward, with
counted repetition written out. -/
namespace PathQuery.Expression

open Text

/-- A part of an automaton that has been measured: the tally after it, and whether it ends
in a state that forks, which then takes one alternative more for what follows. -/
structure Measured where
  tally : Tally
  forks : Bool := false
  deriving DecidableEq, Repr

namespace Measured

/-- The tally once the end of the part leads on. -/
def joined (m : Measured) : Tally := if m.forks then m.tally.addAlternatives 1 else m.tally

/-- The part with this tally, if it is within the limit. -/
def ofTally? (t : Tally) (forks : Bool) : Option Measured :=
  if t.fits then some ⟨t, forks⟩ else none

/-- `n` more copies, measured by `f`, one after the other. -/
def andCopies (f : Tally → Option Measured) : (n : Nat) → Measured → Option Measured
  | 0, m => some m
  | n + 1, m =>
    match f m.joined with
    | none => none
    | some m => andCopies f n m

/-- `n` copies one after the other. -/
def copies (f : Tally → Option Measured) (n : Nat) (t : Tally) : Option Measured :=
  match n with
  | 0 => ofTally? (t.addStates 1) false
  | n + 1 => (f t).bind (andCopies f n)

/-- `n` more copies, each with a fork before it that leads past the rest. -/
def andOptional (f : Tally → Option Measured) : (n : Nat) → Measured → Option Measured
  | 0, m => some m
  | n + 1, m =>
    match f ((m.joined.addStates 1).addAlternatives 2) with
    | none => none
    | some m => andOptional f n m

/-- A last copy that can be repeated: the fork after it leads back to it. -/
def andAgain (f : Tally → Option Measured) (t : Tally) : Option Measured :=
  (f t).bind fun m => ofTally? ((m.joined.addStates 1).addAlternatives 1) true

/-- Any number of copies.  A fork before the copy is enough if the copy takes something;
otherwise one stands before it and one after. -/
def anyNumber (takesSome : Bool) (f : Tally → Option Measured) (t : Tally) : Option Measured :=
  if takesSome then
    (f ((t.addStates 1).addAlternatives 1)).bind fun m => ofTally? m.joined true
  else (f t).bind fun m => ofTally? ((m.joined.addStates 3).addAlternatives 4) false

/-- At least `least` and at most `most` copies. -/
def repeated (takesSome : Bool) (f : Tally → Option Measured) (least : Nat)
    (most : Option Nat) (t : Tally) : Option Measured :=
  match least, most with
  | 0, some 1 =>
    (f ((t.addStates 1).addAlternatives 2)).bind fun m => ofTally? (m.joined.addStates 1) false
  | 0, none => anyNumber takesSome f t
  | 1, none => andAgain f t
  | n + 2, none => (copies f (n + 1) t).bind fun m => andAgain f m.joined
  | n, some m =>
    if n = m then copies f n t
    else
      ((copies f n t).bind fun c =>
        andOptional f (m - n) { c with tally := c.tally.addStates 1 }).bind fun c =>
          ofTally? c.joined false

end Measured

/-- The characters of a literal. -/
def literal? : Expression → Option (List Char)
  | literal cs => some cs
  | _ => none

/-- A literal as a word in the order it is read. -/
def wordOf (forward : Bool) (cs : List Char) : WordTree.Word :=
  if forward then bytesOf cs else (bytesOf cs).reverse

mutual

/-- An expression, measured after what the tally holds. -/
def measure (forward : Bool) : Expression → Tally → Option Measured
  | empty, t => Measured.ofTally? (t.addStates 1) false
  | literal cs, t => Measured.ofTally? (t.addStates (bytesOf cs).length) false
  | set s _, t => Measured.ofTally? (t.addSet forward s) false
  | look _, t => Measured.ofTally? (t.addStates 1) false
  | repetition e least most _, t =>
    Measured.repeated (takesSome? e == some true) (measure forward e) least most t
  | capture e, t =>
    if forward then
      (measure forward e (t.addStates 1)).bind fun m =>
        Measured.ofTally? (m.joined.addStates 1) false
    else measure forward e t
  | concat es, t => if forward then measureForward es t else measureBackward es t
  | alternation es, t =>
    match es.mapM literal? with
    | some words => Measured.ofTally? (t.addWords (words.map (wordOf forward))) false
    | none => measureChoice forward es t

/-- The parts of a sequence, the first one first. -/
def measureForward : List Expression → Tally → Option Measured
  | [], t => Measured.ofTally? t false
  | e :: es, t =>
    match measure true e t with
    | none => none
    | some m => if es.isEmpty then some m else measureForward es m.joined

/-- The parts of a sequence, the last one first. -/
def measureBackward : List Expression → Tally → Option Measured
  | [], t => Measured.ofTally? t false
  | e :: es, t =>
    match measureBackward es t with
    | none => none
    | some m => measure false e m.joined

/-- The alternatives of a choice.  The fork and the end are made after the first two. -/
def measureChoice (forward : Bool) : List Expression → Tally → Option Measured
  | e :: f :: es, t =>
    match measure forward e t with
    | none => none
    | some m =>
      match measure forward f m.tally with
      | none => none
      | some n =>
        let ends := (if m.forks then 1 else 0) + (if n.forks then 1 else 0)
        measureRest forward es ((n.tally.addStates 2).addAlternatives (2 + ends))
  | [e], t => measure forward e t
  | [], t => Measured.ofTally? t false

/-- The alternatives after the first two. -/
def measureRest (forward : Bool) : List Expression → Tally → Option Measured
  | [], t => Measured.ofTally? t false
  | e :: es, t =>
    match measure forward e t with
    | none => none
    | some m => measureRest forward es (m.joined.addAlternatives 1)

end

/-- The tally of what stands before a pattern: any bytes, unless every match is bound to
the place where the search starts. -/
def lead (bound : Bool) : Tally :=
  if bound then Tally.addStates {} 1
  else ((Tally.addStates {} 3).addTransitions 1).addAlternatives 2

/-- The size of the automaton that reads forward, if it is within the limit. -/
def forwardSize? (e : Expression) : Option Nat :=
  (measure true e ((lead e.isBoundToStart).addStates 1)).bind fun m =>
    (Measured.ofTally? (m.joined.addStates 2) false).map (·.tally.bytes)

/-- The size of the automaton that reads backward, if it is within the limit. -/
def backwardSize? (e : Expression) : Option Nat :=
  (measure false e (lead e.isBoundToEnd)).bind fun m =>
    (Measured.ofTally? (m.joined.addStates 1) false).map (·.tally.bytes)

/-- Whether the expression is small enough in both directions. -/
def isSmall (e : Expression) : Bool := e.forwardSize?.isSome && e.backwardSize?.isSome

end PathQuery.Expression
