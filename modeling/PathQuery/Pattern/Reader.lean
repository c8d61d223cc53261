import PathQuery.Pattern.Bracket

/-! # Reading patterns

The reader of a whole pattern.  It knows groups with and without names, flags for the
rest of a group, alternatives, and repetition by a mark or by counts in braces; it
refuses look-around and references to groups.  While the flag `x` is on, blanks and
comments are ignored.  A pattern may be nested `depthLimit` deep, and no two of its
groups share a name. -/
namespace PathQuery.Pattern

open Text

/-- How deep a pattern may be nested. -/
def depthLimit : Nat := 250

namespace Reader

/-! ### Groups -/

/-- The flag of a letter. -/
def flag? (c : Char) : Option Flag :=
  if c = 'i' then some .ignoreCase
  else if c = 'm' then some .multiLine
  else if c = 's' then some .dotAll
  else if c = 'U' then some .swapGreed
  else if c = 'u' then some .unicode
  else if c = 'R' then some .crlf
  else if c = 'x' then some .ignoreSpace
  else none

/-- The flags up to a colon or a closing parenthesis, which is left in place.  Those
after a dash are switched off.  No flag occurs twice, there is one dash at most, and a
flag follows it. -/
def switches? (off : Bool) (done : Switches) : (s : List Char) → Option (Switches × NoLonger s)
  | [] => none
  | c :: s =>
    if c = ':' ∨ c = ')' then some (done.reverse, NoLonger.self (c :: s))
    else if c = '-' then
      if off ∨ s.head?.all (fun d => d == ':' || d == ')') then none
      else (switches? true done s).map fun p => (p.1, p.2.cons)
    else
      match flag? c with
      | none => none
      | some f =>
        if done.any (·.1 == f) then none
        else
          (switches? off ((f, !off) :: done) s).map fun p =>
            (p.1, p.2.cons)

/-- Whether blanks are ignored once the flags are set. -/
def ignoresSpace (x : Bool) (fs : Switches) : Bool :=
  ((fs.find? (·.1 == .ignoreSpace)).map (·.2)).getD x

/-- Whether `c` may start the name of a group. -/
def startsName (c : Char) : Bool := c == '_' || isAlphabetic c

/-- Whether `c` may stand in the name of a group. -/
def inName (c : Char) : Bool :=
  c == '_' || c == '.' || c == '[' || c == ']' || isAlphanumeric c

/-- The name of a group up to its closing bracket. -/
def groupName? (s : List Char) : Option (List Char × Shorter s) :=
  match skipWhile inName s with
  | ⟨t, ht⟩ =>
    let name := s.takeWhile inName
    match afterChar? '>' t with
    | none => none
    | some r => if name.head?.any startsName then some (name, r.transLe ht) else none

/-- What an opening parenthesis leads to. -/
inductive Opening where
  | switches (fs : Switches)
  | capture (name : List Char)
  | group (fs : Switches)
  deriving DecidableEq, Repr

/-- What follows an opening parenthesis and a question mark. -/
def extension? (s : List Char) : Option (Opening × Shorter s) :=
  match (afterWord? ['P', '<'] s).or (afterWord? ['<'] s) with
  | some ⟨r, hr⟩ =>
    (groupName? r).map fun p => (.capture p.1, p.2.transLe hr)
  | none =>
    match switches? false [] s with
    | none => none
    | some (fs, ⟨t, ht⟩) =>
      match afterChar? ')' t, afterChar? ':' t with
      | some r, _ => if fs = [] then none else some (.switches fs, r.transLe ht)
      | none, some r => some (.group fs, r.transLe ht)
      | none, none => none

/-- What follows an opening parenthesis. -/
def opening? (x : Bool) (s : List Char) : Option (Opening × NoLonger s) :=
  match skipIgnored x s with
  | ⟨t, ht⟩ =>
    match afterChar? '?' t with
    | some ⟨r, hr⟩ => (extension? r).map fun p => (p.1, ((p.2.trans hr).transLe ht).noLonger)
    | none => some (.capture [], ⟨t, ht⟩)

/-! ### Repetition -/

/-- Digits with what is ignored after each. -/
def looseDigits (x : Bool) (s : List Char) : List Char × NoLonger s :=
  match s with
  | [] => ([], NoLonger.self [])
  | c :: r =>
    if isDigit c then
      match skipIgnored x r with
      | ⟨t, ht⟩ =>
        let p := looseDigits x t
        (c :: p.1, ⟨p.2.1, by have := p.2.2; simp only [List.length_cons]; omega⟩)
    else ([], NoLonger.self (c :: r))
termination_by s.length
decreasing_by simp only [List.length_cons]; omega

/-- A count with blanks around it, if there is one. -/
def count (x : Bool) (s : List Char) : Option Nat × NoLonger s :=
  match skipWhile isBlank s with
  | ⟨t, ht⟩ =>
    match looseDigits x t with
    | (ds, ⟨u, hu⟩) =>
      let n := ds.foldl (fun n d => 10 * n + (d.toNat - '0'.toNat)) 0
      (if ds = [] ∨ Nat.pow 2 32 ≤ n then none else some n,
        ((skipWhile isBlank u).transLe hu).transLe ht)

/-- The bounds of a repetition after the opening brace: `{n}`, `{n,}` or `{n,m}`. -/
def bounds? (x : Bool) (s : List Char) : Option (Nat × Option Nat × Shorter s) :=
  match skipIgnored x s with
  | ⟨t, ht⟩ =>
    match count x t with
    | (none, _) => none
    | (some least, ⟨u, hu⟩) =>
      match afterChar? '\x7d' u, afterChar? ',' u with
      | some ⟨r, hr⟩, _ => some (least, some least, ⟨r, by omega⟩)
      | none, none => none
      | none, some ⟨v, hv⟩ =>
        match skipIgnored x v with
        | ⟨w, hw⟩ =>
          match afterChar? '\x7d' w with
          | some ⟨r, hr⟩ => some (least, none, ⟨r, by omega⟩)
          | none =>
            match count x w with
            | (none, _) => none
            | (some most, ⟨y, hy⟩) =>
              match afterChar? '\x7d' y with
              | some ⟨r, hr⟩ =>
                if least ≤ most then some (least, some most, ⟨r, by omega⟩) else none
              | none => none

/-- The bounds of a repetition with its mark, and whether a question mark after it makes
it prefer fewer copies.  `none` where there is no mark, `some none` where the bounds are
not well formed. -/
def repetition? (x : Bool) (s : List Char) :
    Option (Option (Nat × Option Nat × Bool × Shorter s)) :=
  match s with
  | [] => none
  | c :: r =>
    let marked (least : Nat) (most : Option Nat) :=
      match afterOptional '?' r with
      | (lazy, t) => some (some (least, most, lazy, (t.shorterCons : Shorter (c :: r))))
    if c = '?' then marked 0 (some 1)
    else if c = '*' then marked 0 none
    else if c = '+' then marked 1 none
    else if c = '\x7b' then
      match bounds? x r with
      | none => some none
      | some (least, most, ⟨t, ht⟩) =>
        match skipIgnored x t with
        | ⟨u, hu⟩ =>
          match afterOptional '?' u with
          | (lazy, ⟨v, hv⟩) =>
            some (some (least, most, lazy, ⟨v, by simp only [List.length_cons]; omega⟩))
    else none

/-- The items so far, last first, with the last one repeated.  Flags and nothing at all
cannot be repeated. -/
def repeatLast? (least : Nat) (most : Option Nat) (lazy : Bool) : List Ast → Option (List Ast)
  | [] => none
  | .flags _ :: _ => none
  | a :: as => some (.repetition a least most lazy :: as)

/-! ### Items and alternatives -/

/-- A dot, an assertion, an escape or a character that stands for itself. -/
def primitive? (x : Bool) (s : List Char) : Option (Ast × Shorter s) :=
  match s with
  | [] => none
  | c :: r =>
    if c = '\\' then
      (escape? x r).map fun p => (p.1, p.2.cons)
    else
      let a : Ast :=
        if c = '.' then .dot
        else if c = '^' then .assertion .lineStart
        else if c = '$' then .assertion .lineEnd
        else .literal ⟨c, false⟩
      some (a, .tail r)

/-- The alternatives of a group up to its closing parenthesis, which is left in place,
or up to the end of the pattern.  `done` holds the alternatives so far and `items` the
parts of the present one, both last first. -/
def alternatives? (x : Bool) (done items : List Ast) (s : List Char) :
    Option (Ast × NoLonger s) :=
  match skipIgnored x s with
  | ⟨[], h⟩ => some (.alternation (.concat items.reverse :: done).reverse, ⟨[], h⟩)
  | ⟨c :: r, h⟩ =>
    if c = ')' then
      some (.alternation (.concat items.reverse :: done).reverse, ⟨c :: r, h⟩)
    else if c = '|' then
      (alternatives? x (.concat items.reverse :: done) [] r).map fun p =>
        (p.1, p.2.trans h)
    else if c = '(' then
      match opening? x r with
      | none => none
      | some (.switches fs, ⟨t, ht⟩) =>
        (alternatives? (ignoresSpace x fs) done (.flags fs :: items) t).map fun p =>
          (p.1, ⟨p.2.1, by have := p.2.2; simp only [List.length_cons] at h; omega⟩)
      | some (.capture name, ⟨t, ht⟩) =>
        match alternatives? x [] [] t with
        | none => none
        | some (a, ⟨u, hu⟩) =>
          match afterChar? ')' u with
          | none => none
          | some ⟨v, hv⟩ =>
            (alternatives? x done (.capture name a :: items) v).map fun p =>
              (p.1, ⟨p.2.1, by have := p.2.2; simp only [List.length_cons] at h; omega⟩)
      | some (.group fs, ⟨t, ht⟩) =>
        match alternatives? (ignoresSpace x fs) [] [] t with
        | none => none
        | some (a, ⟨u, hu⟩) =>
          match afterChar? ')' u with
          | none => none
          | some ⟨v, hv⟩ =>
            (alternatives? x done (.group fs a :: items) v).map fun p =>
              (p.1, ⟨p.2.1, by have := p.2.2; simp only [List.length_cons] at h; omega⟩)
    else if c = '[' then
      match bracket? x r with
      | none => none
      | some (a, ⟨t, ht⟩) =>
        (alternatives? x done (a :: items) t).map fun p =>
          (p.1, ⟨p.2.1, by have := p.2.2; simp only [List.length_cons] at h; omega⟩)
    else
      match repetition? x (c :: r) with
      | some none => none
      | some (some (least, most, lazy, ⟨t, ht⟩)) =>
        match repeatLast? least most lazy items with
        | none => none
        | some items =>
          (alternatives? x done items t).map fun p =>
            (p.1, ⟨p.2.1, by have := p.2.2; simp only [List.length_cons] at h ht; omega⟩)
      | none =>
        match primitive? x (c :: r) with
        | none => none
        | some (a, ⟨t, ht⟩) =>
          (alternatives? x done (a :: items) t).map fun p =>
            (p.1, ⟨p.2.1, by have := p.2.2; simp only [List.length_cons] at h ht; omega⟩)
termination_by s.length
decreasing_by all_goals simp only [List.length_cons] at *; omega

end Reader

/-- The tree of a pattern, if it is well formed. -/
def Ast.read? (s : List Char) : Option Ast :=
  match Reader.alternatives? false [] [] s with
  | some (a, ⟨[], _⟩) => if a.depth ≤ depthLimit ∧ a.names.Nodup then some a else none
  | _ => none

end PathQuery.Pattern
