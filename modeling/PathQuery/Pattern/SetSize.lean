import PathQuery.Pattern.Tally
import PathQuery.Text.Encoding
import Std.Data.HashMap

/-! # The size of sets

A set of characters is searched for by the byte sequences of its members.  Forward, nodes
that lead on alike are made once; backward, the ways to the end are shared as far as they
agree.  Either way only nodes that are still remembered are found again, and the memory is
small: of two nodes with one slot the newer one stays. -/
namespace PathQuery

open Text

/-- The slot of a key among `slots` slots: its hash, 64 bits wide, is the product of a
prime with the hash so far, each number taken in by exclusive or. -/
def slotOf (slots : Nat) (key : List Nat) : Nat :=
  let hash := key.foldl (fun h n => (h ^^^ UInt64.ofNat n) * 0x100000001b3) 0xcbf29ce484222325
  hash.toNat % slots

/-- A memory of nodes: the key and the number of the newest node of each slot. -/
structure NodeMemory where
  slots : Nat
  newest : Std.HashMap Nat (List Nat × Nat) := {}

/-- The number of the node with the given key, if it is remembered. -/
def NodeMemory.find? (m : NodeMemory) (key : List Nat) : Option Nat :=
  match m.newest[slotOf m.slots key]? with
  | some (k, n) => if k = key then some n else none
  | none => none

/-- The memory with a node that is new. -/
def NodeMemory.insert (m : NodeMemory) (key : List Nat) (node : Nat) : NodeMemory :=
  { m with newest := m.newest.insert (slotOf m.slots key) (key, node) }

/-- An automaton for a set while it grows. -/
structure SetDraft where
  tally : Tally
  memory : NodeMemory

namespace SetDraft

/-- The node with the given key, which holds so many transitions if it has to be made. -/
def node (d : SetDraft) (key : List Nat) (transitions : Nat) : Nat × SetDraft :=
  match d.memory.find? key with
  | some n => (n, d)
  | none =>
    let n := d.tally.states
    (n, ⟨(d.tally.addStates 1).addTransitions transitions, d.memory.insert key n⟩)

/-! ### Forward -/

/-- The node from which sequences of at most `depth` bytes start, which all lead to the
node `last`. -/
def start (last : Nat) : (depth : Nat) → List (List ByteRange) → SetDraft → Nat × SetDraft
  | 0, _, d => (last, d)
  | depth + 1, seqs, d =>
    if seqs.all List.isEmpty then (last, d)
    else
      let runs := seqs.splitBy fun p q => p.head? == q.head?
      let (ways, d) :=
        runs.foldl (fun (ways, d) run =>
          let (next, d) := start last depth (run.map List.tail) d
          let b := (run.head?.bind List.head?).getD (0, 0)
          ([b.1, b.2, next] :: ways, d)) ([], d)
      d.node ways.reverse.flatten ways.length

/-! ### Backward -/

/-- The node from which a sequence, read from its end, leads to the node `last`. -/
def finish (last : Nat) (seq : List ByteRange) (d : SetDraft) : Nat × SetDraft :=
  seq.foldl (fun (next, d) b => node d [next, b.1, b.2] 0) (last, d)

end SetDraft

namespace Tally

/-- With the states for a set that is read forward. -/
def addSetForward (t : Tally) (s : CharSet) : Tally :=
  (SetDraft.start t.states 4 s.sequences ⟨t.addStates 1, ⟨10000, {}⟩⟩).2.tally

/-- With the states for a set that is read backward: one alternative for each sequence. -/
def addSetBackward (t : Tally) (s : CharSet) : Tally :=
  let seqs := s.sequences
  let last := t.states + 1
  let d : SetDraft := ⟨(t.addStates 2).addAlternatives seqs.length, ⟨1000, {}⟩⟩
  (seqs.foldl (fun d q => (SetDraft.finish last q d).2) d).tally

/-- With the states for a set.  One of ASCII characters takes a list of ranges only. -/
def addSet (t : Tally) (forward : Bool) (s : CharSet) : Tally :=
  if s.isAscii then (t.addStates 2).addTransitions s.ranges.length
  else if forward then t.addSetForward s
  else t.addSetBackward s

end Tally

end PathQuery
