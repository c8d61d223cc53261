import PathQuery.Pattern.Escape

/-! # Bracketed classes

The reader of a class in brackets: characters, ranges, escapes, named ASCII classes and
classes inside classes, and the operators `&&`, `--` and `~~` between sets, which all
bind alike and to the left. -/
namespace PathQuery.Pattern.Reader

open Text

/-- A class that holds the ranges of the given characters. -/
def rangesOf (rs : List (Char × Char)) : CharSet :=
  .ofRanges (rs.map fun r => (r.1.toNat, r.2.toNat))

/-- The named ASCII classes. -/
def asciiClasses : List (String × CharSet) := [
  ("alnum", rangesOf [('0', '9'), ('A', 'Z'), ('a', 'z')]),
  ("alpha", rangesOf [('A', 'Z'), ('a', 'z')]),
  ("ascii", rangesOf [('\x00', '\x7f')]),
  ("blank", rangesOf [('\t', '\t'), (' ', ' ')]),
  ("cntrl", rangesOf [('\x00', '\x1f'), ('\x7f', '\x7f')]),
  ("digit", rangesOf [('0', '9')]),
  ("graph", rangesOf [('!', '~')]),
  ("lower", rangesOf [('a', 'z')]),
  ("print", rangesOf [(' ', '~')]),
  ("punct", rangesOf [('!', '/'), (':', '@'), ('[', '\x60'), ('\x7b', '~')]),
  ("space", rangesOf [('\t', '\r'), (' ', ' ')]),
  ("upper", rangesOf [('A', 'Z')]),
  ("word", rangesOf [('0', '9'), ('A', 'Z'), ('_', '_'), ('a', 'z')]),
  ("xdigit", rangesOf [('0', '9'), ('A', 'F'), ('a', 'f')])]

/-- A named ASCII class without its opening bracket, taken off the front.  A text that
only starts like one is not refused here: it may be a class of characters. -/
def asciiClass? (s : List Char) : Option (ClassItem × Shorter s) :=
  match afterChar? ':' s with
  | none => none
  | some ⟨r, hr⟩ =>
    let (negated, ⟨t, ht⟩) := afterOptional '^' r
    let name := String.ofList (t.takeWhile (· != ':'))
    match skipWhile (· != ':') t with
    | ⟨u, hu⟩ =>
      match afterWord? [':', ']'] u, asciiClasses.find? (·.1 == name) with
      | some v, some c => some (.ascii c.2 negated, ((v.transLe hu).transLe ht).shorter hr)
      | _, _ => none

/-- The next character after a dash, past what is ignored.  Inside a comment only
blanks are passed over. -/
def peekPast (x : Bool) (s : List Char) : Option Char :=
  if x then
    match trimStart s with
    | c :: r => if c = '#' then (trimStart r).head? else some c
    | [] => none
  else s.head?

/-- A character or an escape that can stand in a class. -/
def classAtom? (x : Bool) (s : List Char) : Option (ClassItem × Shorter s) :=
  match s with
  | [] => none
  | c :: r =>
    if c = '\\' then
      match escape? x r with
      | some (.literal l, t) => some (.literal l, t.cons)
      | some (.perl p n, t) => some (.perl p n, t.cons)
      | some (.unicode u n, t) => some (.unicode u n, t.cons)
      | _ => none
    else some (.literal ⟨c, false⟩, .tail r)

/-- The range between two characters. -/
def range? : ClassItem → ClassItem → Option ClassItem
  | .literal a, .literal b =>
    if a.char.toNat ≤ b.char.toNat then some (.range a b) else none
  | _, _ => none

/-- A character, an escape or a range of characters.  A dash before a closing bracket or
another dash starts no range. -/
def classItem? (x : Bool) (s : List Char) : Option (ClassItem × Shorter s) :=
  match classAtom? x s with
  | none => none
  | some (first, ⟨r, hr⟩) =>
    match (skipIgnored x r).shorter hr with
    | ⟨t, ht⟩ =>
      match afterChar? '-' t with
      | none => some (first, ⟨t, ht⟩)
      | some ⟨u, hu⟩ =>
        if peekPast x u = some ']' ∨ peekPast x u = some '-' then
          some (first, ⟨t, ht⟩)
        else
          match skipIgnored x u with
          | ⟨v, hv⟩ =>
            match classAtom? x v with
            | none => none
            | some (last, w) =>
              (range? first last).map fun i => (i, ((w.transLe hv).trans hu).trans ht)

/-- The dashes at the start of a class, which stand for themselves, the number of them
and the text after them. -/
def dashes (x : Bool) (s : List Char) : Nat × NoLonger s :=
  match skipIgnored x s with
  | ⟨t, ht⟩ =>
    match afterChar? '-' t with
    | none => (0, ⟨t, ht⟩)
    | some u =>
      match u.transLe ht with
      | ⟨v, hv⟩ =>
        let p := dashes x v
        (p.1 + 1, p.2.trans hv)
termination_by s.length
decreasing_by exact hv

/-- What a class starts with after its opening bracket: whether it is negated, and the
characters that stand for themselves there. -/
def classStart (x : Bool) (s : List Char) : Bool × List ClassItem × NoLonger s :=
  match skipIgnored x s with
  | ⟨t, ht⟩ =>
    let (negated, ⟨u, hu⟩) := afterOptional '^' t
    match dashes x u with
    | (0, ⟨v, hv⟩) =>
      match afterChar? ']' v with
      | some w =>
        (negated, [.literal ⟨']', false⟩], (((w.transLe hv).transLe hu).transLe ht).noLonger)
      | none => (negated, [], (NoLonger.transLe ⟨v, hv⟩ hu).transLe ht)
    | (n + 1, v) =>
      (negated, List.replicate (n + 1) (.literal ⟨'-', false⟩), (v.transLe hu).transLe ht)

/-- The operator that a class goes on with. -/
def setOp? (s : List Char) : Option (SetOp × Shorter s) :=
  match s with
  | a :: b :: r =>
    if a ≠ b then none
    else if a = '&' then some (.inter, (Shorter.tail r).cons)
    else if a = '-' then some (.diff, (Shorter.tail r).cons)
    else if a = '~' then some (.symmDiff, (Shorter.tail r).cons)
    else none
  | _ => none

/-- The left operand and the operator that wait for a right operand. -/
abbrev Pending := Option (SetOp × ClassSet)

/-- The set so far: the waiting operator applied, or the items alone. -/
def Pending.close (p : Pending) (items : List ClassItem) : ClassSet :=
  match p with
  | some (o, left) => .op o left (.items items)
  | none => .items items

/-- The rest of a class up to its closing bracket; `items` holds the items of the
present operand, last first. -/
def classRest? (x : Bool) (pending : Pending) (items : List ClassItem) (s : List Char) :
    Option (ClassSet × Shorter s) :=
  match skipIgnored x s with
  | ⟨t, ht⟩ =>
    match afterChar? ']' t with
    | some r => some (pending.close items.reverse, r.transLe ht)
    | none =>
      match afterChar? '[' t with
      | some ⟨r, hr⟩ =>
        match asciiClass? r with
        | some (i, ⟨u, hu⟩) =>
          (classRest? x pending (i :: items) u).map fun p =>
            (p.1, ⟨p.2.1, by have := p.2.2; omega⟩)
        | none =>
          match classStart x r with
          | (negated, start, ⟨u, hu⟩) =>
            match classRest? x none start.reverse u with
            | none => none
            | some (inner, ⟨v, hv⟩) =>
              (classRest? x pending (.bracketed inner negated :: items) v).map fun p =>
                (p.1, ⟨p.2.1, by have := p.2.2; omega⟩)
      | none =>
        match setOp? t with
        | some (o, ⟨u, hu⟩) =>
          (classRest? x (some (o, pending.close items.reverse)) [] u).map fun p =>
            (p.1, ⟨p.2.1, by have := p.2.2; omega⟩)
        | none =>
          match classItem? x t with
          | none => none
          | some (i, ⟨u, hu⟩) =>
            (classRest? x pending (i :: items) u).map fun p =>
              (p.1, ⟨p.2.1, by have := p.2.2; omega⟩)
termination_by s.length
decreasing_by all_goals omega

/-- A class without its opening bracket, taken off the front. -/
def bracket? (x : Bool) (s : List Char) : Option (Ast × Shorter s) :=
  match classStart x s with
  | (negated, start, ⟨t, ht⟩) =>
    (classRest? x none start.reverse t).map fun p =>
      (.bracketed p.1 negated, p.2.transLe ht)

end PathQuery.Pattern.Reader
