import PathQuery.Toml.Numeral
import PathQuery.Toml.Quoted
import PathQuery.Toml.Table

/-! # Reading TOML

The reader of a whole TOML text: lines with headers, with a key and a value, or with
nothing but a comment.  Keys may have dots; arrays may go over several lines and end with
a comma, inline tables may do neither.  Arrays and inline tables may be nested
`depthLimit` deep, and a key may have as many parts. -/
namespace PathQuery.Toml

open Text

/-- How deep arrays and inline tables may be nested, and how many parts a key may have. -/
def depthLimit : Nat := 79

namespace Reader

/-! ### Blanks and comments -/

/-- The text after the comment it may start with. -/
def skipComment (s : List Char) : NoLonger s :=
  match afterChar? '#' s with
  | none => .self s
  | some ⟨r, hr⟩ => (skipWhile isPlain r).trans hr

/-- The text after the end of a line: blanks, perhaps a comment, and a line break or the
end of the text. -/
def endLine? (s : List Char) : Option (NoLonger s) :=
  match skipSpace s with
  | ⟨t, ht⟩ =>
    match skipComment t with
    | ⟨u, hu⟩ =>
      match u, lineBreak? u with
      | [], _ => some ⟨[], Nat.zero_le _⟩
      | _ :: _, some ⟨v, hv⟩ => some ⟨v, by omega⟩
      | _ :: _, none => none

/-- The text after the blanks, comments and line breaks it starts with. -/
def skipFiller (s : List Char) : NoLonger s :=
  match skipSpace s with
  | ⟨t, ht⟩ =>
    match skipComment t with
    | ⟨u, hu⟩ =>
      match lineBreak? u with
      | none => NoLonger.transLe ⟨u, hu⟩ ht
      | some v =>
        match (v.transLe hu).transLe ht with
        | ⟨w, hw⟩ => (skipFiller w).trans hw
termination_by s.length
decreasing_by exact hw

/-! ### Keys -/

/-- Whether `c` may stand in a key without quotes. -/
def isKeyChar (c : Char) : Bool := isAsciiLetter c || isDigit c || c == '_' || c == '-'

/-- A part of a key: a string on one line, or characters without quotes. -/
def part? (s : List Char) : Option (List Char × Shorter s) :=
  match keyString? s with
  | some p => some p
  | none =>
    match s with
    | [] => none
    | c :: r =>
      if isKeyChar c then
        some (c :: r.takeWhile isKeyChar, (skipWhile isKeyChar r).shorterCons)
      else none

/-- The parts of a key with points and blanks between them. -/
def parts? (s : List Char) : Option (List String × Shorter s) :=
  match skipSpace s with
  | ⟨t, ht⟩ =>
    match part? t with
    | none => none
    | some (k, ⟨r, hr⟩) =>
      match ((skipSpace r).shorter hr).transLe ht with
      | ⟨u, hu⟩ =>
        match afterChar? '.' u with
        | none => some ([String.ofList k], ⟨u, hu⟩)
        | some v =>
          match v.trans hu with
          | ⟨w, hw⟩ => (parts? w).map fun p => (String.ofList k :: p.1, p.2.trans hw)
termination_by s.length
decreasing_by exact hw

/-- A key with blanks around it, taken off the front. -/
def key? (s : List Char) : Option (Key × Shorter s) :=
  match parts? s with
  | none => none
  | some (ks, r) =>
    if ks.length ≤ depthLimit then some (⟨ks.dropLast, ks.getLastD ""⟩, r) else none

/-! ### Values -/

/-- The word for a truth value, taken off the front. -/
def boolean? (s : List Char) : Option (Toml × NoLonger s) :=
  match afterWord? "true".toList s, afterWord? "false".toList s with
  | some r, _ => some (.boolean true, r)
  | none, some r => some (.boolean false, r)
  | none, none => none

mutual

/-- A value taken off the front; arrays and inline tables may be nested `room` deep. -/
def value? (room : Nat) (s : List Char) : Option (Toml × NoLonger s) :=
  match afterChar? '[' s, afterChar? '\x7b' s with
  | some ⟨r, hr⟩, _ =>
    match room with
    | 0 => none
    | room + 1 => (items? room r).map fun p => (.array p.1, (p.2.trans hr).noLonger)
  | none, some ⟨r, hr⟩ =>
    match room with
    | 0 => none
    | room + 1 =>
      match inlinePairs? room r with
      | none => none
      | some (ps, t) => (ofPairs? ps).map fun v => (v, (t.trans hr).noLonger)
  | none, none =>
    match string? s with
    | some (x, r) => some (.string (String.ofList x), r.noLonger)
    | none => (boolean? s).or (scalar? s)
termination_by (s.length, 0)
decreasing_by all_goals exact Prod.Lex.left _ _ hr

/-- The items of an array up to its closing bracket. -/
def items? (room : Nat) (s : List Char) : Option (List Toml × Shorter s) :=
  match skipFiller s with
  | ⟨t, ht⟩ =>
    match afterChar? ']' t with
    | some r => some ([], r.transLe ht)
    | none =>
      match value? room t with
      | none => none
      | some (v, ⟨r, hr⟩) =>
        match skipFiller r with
        | ⟨u, hu⟩ =>
          match afterChar? ',' u, afterChar? ']' u with
          | some ⟨w, hw⟩, _ =>
            (items? room w).map fun p =>
              (v :: p.1, (((p.2.trans hw).transLe hu).transLe hr).transLe ht)
          | none, some w => some ([v], ((w.transLe hu).transLe hr).transLe ht)
          | none, none => none
termination_by (s.length, 1)
decreasing_by
  · rcases Nat.lt_or_eq_of_le ht with h | h
    · exact Prod.Lex.left _ _ h
    · rw [h]; exact Prod.Lex.right _ Nat.one_pos
  · exact Prod.Lex.left _ _ (by omega)

/-- The pairs of an inline table up to its closing brace. -/
def inlinePairs? (room : Nat) (s : List Char) : Option (List (Key × Toml) × Shorter s) :=
  match skipSpace s with
  | ⟨t, ht⟩ =>
    match afterChar? '\x7d' t with
    | some r => some ([], r.transLe ht)
    | none =>
      match pairsRest? room t with
      | none => none
      | some (ps, r) => some (ps, r.transLe ht)
termination_by (s.length, 3)
decreasing_by
  rcases Nat.lt_or_eq_of_le ht with h | h
  · exact Prod.Lex.left _ _ h
  · rw [h]; exact Prod.Lex.right _ (by decide)

/-- One pair or more with commas between them, up to a closing brace. -/
def pairsRest? (room : Nat) (s : List Char) : Option (List (Key × Toml) × Shorter s) :=
  match pair? room s with
  | none => none
  | some (p, ⟨r, hr⟩) =>
    match skipSpace r with
    | ⟨u, hu⟩ =>
      match afterChar? ',' u, afterChar? '\x7d' u with
      | some ⟨w, hw⟩, _ =>
        (pairsRest? room w).map fun q =>
          (p :: q.1, ((q.2.trans hw).transLe hu).trans hr)
      | none, some w => some ([p], (w.transLe hu).trans hr)
      | none, none => none
termination_by (s.length, 2)
decreasing_by
  · exact Prod.Lex.right _ (by decide)
  · exact Prod.Lex.left _ _ (Nat.lt_trans hw (Nat.lt_of_le_of_lt hu hr))

/-- A key, an equals sign and a value. -/
def pair? (room : Nat) (s : List Char) : Option ((Key × Toml) × Shorter s) :=
  match key? s with
  | none => none
  | some (k, ⟨r, hr⟩) =>
    match afterChar? '=' r with
    | none => none
    | some ⟨t, ht⟩ =>
      match skipSpace t with
      | ⟨u, hu⟩ =>
        (value? room u).map fun p => ((k, p.1), ((p.2.transLe hu).shorter ht).trans hr)
termination_by (s.length, 1)
decreasing_by exact Prod.Lex.left _ _ (Nat.lt_of_le_of_lt hu (Nat.lt_trans ht hr))

end

/-! ### Lines -/

/-- A line that is not empty. -/
inductive Line where
  | header (k : Key) (repeated : Bool)
  | pair (k : Key) (v : Toml)

/-- A header without its line's end: a key in single or double brackets. -/
def header? (s : List Char) : Option (Line × Shorter s) :=
  match afterWord? ['[', '['] s, afterChar? '[' s with
  | some ⟨r, hr⟩, _ =>
    match key? r with
    | none => none
    | some (k, ⟨t, ht⟩) =>
      (afterWord? [']', ']'] t).map fun u => (.header k true, (u.shorter ht).transLe hr)
  | none, some ⟨r, hr⟩ =>
    match key? r with
    | none => none
    | some (k, ⟨t, ht⟩) =>
      (afterChar? ']' t).map fun u => (.header k false, (u.trans ht).trans hr)
  | none, none => none

/-- A header, or a key with its value. -/
def line? (s : List Char) : Option (Line × Shorter s) :=
  match s.head? with
  | some '[' => header? s
  | _ => (pair? depthLimit s).map fun p => (.pair p.1.1 p.1.2, p.2)

/-- The lines up to the end of the text. -/
def lines? (s : List Char) : Option (List Line) :=
  match skipFiller s with
  | ⟨[], _⟩ => some []
  | ⟨c :: t, _ht⟩ =>
    match line? (c :: t) with
    | none => none
    | some (l, ⟨r, _hr⟩) =>
      match endLine? r with
      | none => none
      | some ⟨u, _hu⟩ => (lines? u).map (l :: ·)
termination_by s.length
decreasing_by omega

/-- The pairs before the first header, and the sections. -/
def sections : List Line → List (Key × Toml) × List Section
  | [] => ([], [])
  | .pair k v :: ls => let q := sections ls; ((k, v) :: q.1, q.2)
  | .header k repeated :: ls => let q := sections ls; ([], ⟨k, repeated, q.1⟩ :: q.2)

/-- The text without the byte order mark it may start with. -/
def dropMark (s : List Char) : List Char := if s.head? = some '\ufeff' then s.drop 1 else s

end Reader

/-- The table of a TOML text. -/
def read? (s : String) : Option Toml :=
  (Reader.lines? (Reader.dropMark s.toList)).bind fun ls =>
    ofSections? (Reader.sections ls).1 (Reader.sections ls).2

end PathQuery.Toml
