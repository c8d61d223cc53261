import PathQuery.Text.CharSet

/-! # Sets of characters as byte sequences

A set of characters, in UTF-8, is a set of short byte sequences.  `CharSet.sequences`
writes it as a list of sequences of byte ranges, in rising order. -/
namespace PathQuery.Text

/-- The bytes of a text in UTF-8. -/
def bytesOf (cs : List Char) : List Nat :=
  cs.flatMap fun c => (String.utf8EncodeChar c).map UInt8.toNat

/-- The least and the greatest byte at one place of a sequence. -/
abbrev ByteRange := Nat × Nat

/-- The sequences of `n + 1` groups of six bits for the numbers from `lo` to `hi`; the
first group may be larger. -/
def groups : (n lo hi : Nat) → List (List ByteRange)
  | 0, lo, hi => [[(lo, hi)]]
  | n + 1, lo, hi =>
    let unit := Nat.pow 64 (n + 1)
    let first := lo / unit
    let last := hi / unit
    if first = last then (groups n (lo % unit) (hi % unit)).map ((first, first) :: ·)
    else
      let cutLow := lo % unit ≠ 0
      let cutHigh := hi % unit ≠ unit - 1
      let low := if cutLow then (groups n (lo % unit) (unit - 1)).map ((first, first) :: ·) else []
      let high := if cutHigh then (groups n 0 (hi % unit)).map ((last, last) :: ·) else []
      let first := if cutLow then first + 1 else first
      let last := if cutHigh then last - 1 else last
      let middle :=
        if first ≤ last then [(first, last) :: List.replicate (n + 1) (0, 63)] else []
      low ++ middle ++ high

/-- The characters whose encodings have one length, or half of them where the surrogates
lie between. -/
structure EncodedLength where
  /-- The number of bytes after the first. -/
  further : Nat
  /-- The bits that mark the first byte. -/
  mark : Nat
  least : Nat
  greatest : Nat
  deriving DecidableEq, Repr

/-- The lengths of encodings in rising order. -/
def encodedLengths : List EncodedLength :=
  [⟨0, 0, 0, 0x7f⟩, ⟨1, 0xc0, 0x80, 0x7ff⟩, ⟨2, 0xe0, 0x800, 0xd7ff⟩, ⟨2, 0xe0, 0xe000, 0xffff⟩,
    ⟨3, 0xf0, 0x10000, CharSet.top⟩]

/-- A byte range with the bits of `mark`. -/
def ByteRange.marked (mark : Nat) (b : ByteRange) : ByteRange := (mark + b.1, mark + b.2)

/-- The sequences of the characters of one length from `lo` to `hi`. -/
def EncodedLength.sequences (l : EncodedLength) (lo hi : Nat) : List (List ByteRange) :=
  let lo := max lo l.least
  let hi := min hi l.greatest
  if lo ≤ hi then
    (groups l.further lo hi).map fun
      | [] => []
      | b :: bs => b.marked l.mark :: bs.map (ByteRange.marked 0x80)
  else []

/-- The sequences of byte ranges that the set is encoded as. -/
def CharSet.sequences (s : CharSet) : List (List ByteRange) :=
  s.ranges.flatMap fun r => encodedLengths.flatMap fun l => l.sequences r.1 r.2

example : CharSet.sequences ⟨[(0x41, 0x800)]⟩ =
    [[(0x41, 0x7f)], [(0xc2, 0xdf), (0x80, 0xbf)], [(0xe0, 0xe0), (0xa0, 0xa0), (0x80, 0x80)]] := by
  decide +kernel

end PathQuery.Text
