import PathQuery.Pattern.Tally

/-! # The size of lists of words

A choice among words, each a list of bytes, is searched for by a tree that shares
beginnings.  The order of the words counts, for the first one that matches wins: where a
word ends inside the tree, later words start new branches. -/
namespace PathQuery.WordTree

/-- A word: its bytes. -/
abbrev Word := List Nat

/-- The words at one place of the tree: those before each place where a word ends, and
those after the last such place; all last first. -/
structure Stretches where
  closed : List (List Word) := []
  current : List Word := []

/-- The stretches with one more word.  An end right after an end adds nothing as long as
no word goes on. -/
def Stretches.push (s : Stretches) : Word → Stretches
  | [] =>
    if s.current = [] ∧ s.closed ≠ [] ∧ s.closed.all List.isEmpty then s
    else ⟨s.current :: s.closed, []⟩
  | w => { s with current := w :: s.current }

/-- The words of a stretch by their first byte, without it. -/
def branches (ws : List Word) : List (List Word) :=
  (ws.filterMap List.head?).eraseDups.map fun b =>
    ws.filterMap fun w => if w.head? = some b then some w.tail else none

/-- The tally with the tree below one place, for words of at most `depth` bytes.  A place
where all words end takes nothing. -/
def add : (depth : Nat) → List Word → Tally → Tally
  | 0, _, t => t
  | depth + 1, ws, t =>
    if ws.all List.isEmpty then t
    else
      let s := ws.foldl Stretches.push {}
      let stretches := ((s.current :: s.closed).map fun c => branches c.reverse).filter (· ≠ [])
      let t := (t.addStates 1).addAlternatives (s.closed.length + stretches.length)
      stretches.foldl (fun t bs =>
        let t := t.addStates 1
        let t := if bs.length = 1 then t else t.addTransitions bs.length
        bs.foldl (fun t ws => add depth ws t) t) t

end WordTree

/-- With the states for a choice among words. -/
def Tally.addWords (t : Tally) (ws : List WordTree.Word) : Tally :=
  WordTree.add ((ws.map List.length).foldl max 0 + 1) ws (t.addStates 1)

end PathQuery
