/-! # The size of automata

The automata over bytes that would search for a pattern are not built, only measured:
each state has its size, and some hold transitions or alternatives besides.  A pattern is
too large if one of its automata passes `Tally.limit`. -/
namespace PathQuery

/-- What an automaton has taken so far: its states, and the bytes that they hold besides
their own size.  States are numbered in the order they are made, so `states` is also the
number of the next one. -/
structure Tally where
  states : Nat := 0
  extra : Nat := 0
  deriving DecidableEq, Repr

namespace Tally

/-- The bytes of a state. -/
def stateSize : Nat := 32

/-- The bytes of each transition of a state that has a list of them. -/
def transitionSize : Nat := 8

/-- The bytes of each alternative of a state that forks. -/
def alternativeSize : Nat := 4

/-- The greatest size of an automaton, ten mebibytes. -/
def limit : Nat := 10 * Nat.pow 2 20

/-- The size in bytes. -/
def bytes (t : Tally) : Nat := stateSize * t.states + t.extra

/-- Whether the size is within the limit. -/
def fits (t : Tally) : Bool := t.bytes ≤ limit

/-- With `n` more states that hold nothing besides. -/
def addStates (t : Tally) (n : Nat) : Tally := { t with states := t.states + n }

/-- With `n` more transitions in lists. -/
def addTransitions (t : Tally) (n : Nat) : Tally :=
  { t with extra := t.extra + transitionSize * n }

/-- With `n` more alternatives. -/
def addAlternatives (t : Tally) (n : Nat) : Tally :=
  { t with extra := t.extra + alternativeSize * n }

end Tally

end PathQuery
