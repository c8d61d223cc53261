/-! # Sets of characters

A set of characters is a list of inclusive ranges of code points, in rising order
and with a gap between two neighbours.  `contains` is the view that everything
else is measured by: `contains_union` and its companions say what each operation
does to it. -/
namespace PathQuery.Text

/-- A set of characters, as inclusive ranges of code points. -/
structure CharSet where
  ranges : List (Nat × Nat)
  deriving Repr, Inhabited

namespace CharSet

/-- Two sets are told apart by their ranges; a set and itself, as the copies of one part of
a pattern hold it, are the same without a look at them. -/
instance : DecidableEq CharSet := fun s t =>
  withPtrEqDecEq s t fun _ =>
    decidable_of_iff (s.ranges = t.ranges) ⟨congrArg CharSet.mk, congrArg ranges⟩

/-- The greatest code point. -/
def top : Nat := 0x10FFFF

/-- Whether one of the ranges holds the code point `n`. -/
def holds (rs : List (Nat × Nat)) (n : Nat) : Bool :=
  rs.any fun r => r.1 ≤ n && n ≤ r.2

/-- Whether the set has the character `c`. -/
def contains (s : CharSet) (c : Char) : Bool := holds s.ranges c.toNat

/-- The set without members. -/
def empty : CharSet := ⟨[]⟩

/-- The set of all characters. -/
def all : CharSet := ⟨[(0, top)]⟩

/-- The set of one character. -/
def single (c : Char) : CharSet := ⟨[(c.toNat, c.toNat)]⟩

/-- The characters from `lo` to `hi`, both included. -/
def between (lo hi : Char) : CharSet := ⟨[(lo.toNat, hi.toNat)]⟩

/-- Ranges in rising order with neighbours that touch or overlap joined, after the
range `r`, which starts no later than any of them. -/
def joinAfter : Nat × Nat → List (Nat × Nat) → List (Nat × Nat)
  | r, [] => [r]
  | r, s :: rest =>
    if s.1 ≤ r.2 + 1 then joinAfter (r.1, max r.2 s.2) rest else r :: joinAfter s rest

/-- The set with the given ranges, which may come in any order and overlap. -/
def ofRanges (rs : List (Nat × Nat)) : CharSet :=
  match rs.mergeSort (fun a b => a.1 ≤ b.1) with
  | [] => empty
  | r :: rest => ⟨joinAfter r rest⟩

/-- The members of either set. -/
def union (s t : CharSet) : CharSet := ofRanges (s.ranges ++ t.ranges)

/-- The code point after `n`, past the surrogates, which are no characters. -/
def after (n : Nat) : Nat := if n = 0xd7ff then 0xe000 else n + 1

/-- The code point before `n`, past the surrogates. -/
def before (n : Nat) : Nat := if n = 0xe000 then 0xd7ff else n - 1

/-- The range between two ranges.  Two that only the surrogates part count as apart, and
the range between them then goes from the end of one to the start of the other. -/
def gap (r s : Nat × Nat) : Nat × Nat :=
  (min (after r.2) (before s.1), max (after r.2) (before s.1))

/-- The gaps between ranges in rising order and after them; `r` is the first. -/
def gapsAfter (r : Nat × Nat) : List (Nat × Nat) → List (Nat × Nat)
  | [] => if r.2 < top then [(after r.2, top)] else []
  | s :: rest => gap r s :: gapsAfter s rest

/-- The characters that are not in the set. -/
def complement (s : CharSet) : CharSet :=
  match s.ranges with
  | [] => all
  | r :: rest => ⟨(if 0 < r.1 then [(0, before r.1)] else []) ++ gapsAfter r rest⟩

/-- What two lists of ranges in rising order have in common. -/
def common : List (Nat × Nat) → List (Nat × Nat) → List (Nat × Nat)
  | [], _ => []
  | _ :: _, [] => []
  | r :: rs, s :: ss =>
    let rest := if r.2 < s.2 then common rs (s :: ss) else common (r :: rs) ss
    if max r.1 s.1 ≤ min r.2 s.2 then (max r.1 s.1, min r.2 s.2) :: rest else rest
termination_by rs ss => rs.length + ss.length

/-- The members of both sets. -/
def inter (s t : CharSet) : CharSet := ⟨common s.ranges t.ranges⟩

/-- What is left of ranges in rising order without those of a second list. -/
def without : List (Nat × Nat) → List (Nat × Nat) → List (Nat × Nat)
  | [], _ => []
  | r :: rs, [] => r :: rs
  | r :: rs, s :: ss =>
    if s.2 < r.1 then without (r :: rs) ss
    else if r.2 < s.1 then r :: without rs (s :: ss)
    else
      let rest :=
        if s.2 < r.2 then without ((after s.2, r.2) :: rs) ss else without rs (s :: ss)
      if r.1 < s.1 then (r.1, before s.1) :: rest else rest
termination_by rs ss => rs.length + ss.length

/-- The members of `s` that are not in `t`. -/
def diff (s t : CharSet) : CharSet := ⟨without s.ranges t.ranges⟩

/-- The members of exactly one of the sets. -/
def symmDiff (s t : CharSet) : CharSet := (s.union t).diff (s.inter t)

/-- The union of many sets. -/
def unionAll (ss : List CharSet) : CharSet := ofRanges (ss.flatMap ranges)

/-- Whether every member is an ASCII character. -/
def isAscii (s : CharSet) : Bool := s.ranges.all fun r => r.2 ≤ 0x7F

/-- The set of the characters in a list. -/
def ofList (cs : List Char) : CharSet := ofRanges (cs.map fun c => (c.toNat, c.toNat))

/-- The value of a hexadecimal digit; other characters count as zero. -/
def hexValue (c : Char) : Nat :=
  if '0' ≤ c ∧ c ≤ '9' then c.toNat - '0'.toNat
  else if 'a' ≤ c ∧ c ≤ 'f' then c.toNat - 'a'.toNat + 10
  else if 'A' ≤ c ∧ c ≤ 'F' then c.toNat - 'A'.toNat + 10
  else 0

/-- The state while a table of ranges is read: the ranges so far, last first, the
start of the present range once a dash has been seen, and the number being read. -/
structure TableState where
  done : List (Nat × Nat) := []
  start : Option Nat := none
  number : Nat := 0

/-- The range that is being read, added to those before it. -/
def TableState.close (st : TableState) : List (Nat × Nat) :=
  (st.start.getD st.number, st.number) :: st.done

/-- One character of a table of ranges. -/
def TableState.step (st : TableState) (c : Char) : TableState :=
  if c = '-' then { st with start := some st.number, number := 0 }
  else if c = ' ' then { done := st.close }
  else { st with number := 16 * st.number + hexValue c }

/-- The set of a table such as `41-5a 61-7a aa`: hexadecimal code points and ranges
of them, in rising order, with one space between two. -/
def ofTable (t : String) : CharSet :=
  if t.isEmpty then empty
  else ⟨((t.toList.foldl TableState.step {}).close).reverse⟩

example : ofTable "41-5a 61 aa-ab" = ⟨[(0x41, 0x5a), (0x61, 0x61), (0xaa, 0xab)]⟩ := by
  decide +kernel

example : (ofTable "61-63").complement = ⟨[(0, 0x60), (0x64, top)]⟩ := by decide +kernel

end CharSet

end PathQuery.Text
