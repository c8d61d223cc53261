import PathQuery.Json.Basic
import PathQuery.Text.Rest

/-! # Reading JSON

A strict reader: one value with blanks around it and nothing else.  A number without
fraction and exponent that fits 64 bits is an integer, `-0` and every other number is
a double, and one that is out of range is refused.  Arrays and objects may be nested
`depthLimit` deep.

Each step that succeeds hands back a shorter rest, which is why the readers of
values, items and members end. -/
namespace PathQuery
namespace Json
namespace Reader

open Text

/-- Whether `c` may stand between tokens. -/
def isSpace (c : Char) : Bool := c = ' ' || c = '\n' || c = '\t' || c = '\r'

/-- The text after the blanks it starts with. -/
def skipSpace (s : List Char) : NoLonger s :=
  skipWhile isSpace s

/-! ### Numbers -/

/-- A fraction taken off the front: no digits where there is none, and `none` for a
point without digits after it. -/
def fraction? (s : List Char) : Option (List Char × NoLonger s) :=
  match afterChar? '.' s with
  | none => some ([], .self s)
  | some ⟨r, hr⟩ =>
    let (ds, u) := takeDigits r
    if ds = [] then none else some (ds, u.trans hr)

/-- A sign taken off the front of an exponent. -/
def exponentSign (s : List Char) : Bool × NoLonger s :=
  match afterChar? '-' s with
  | some r => (true, r.noLonger)
  | none =>
    match afterChar? '+' s with
    | some r => (false, r.noLonger)
    | none => (false, .self s)

/-- An exponent taken off the front, if there is one: `none` for an `e` without
digits after it. -/
def exponent? (s : List Char) : Option (Option Int × NoLonger s) :=
  match (afterChar? 'e' s).or (afterChar? 'E' s) with
  | none => some (none, .self s)
  | some ⟨r, hr⟩ =>
    let (negative, ⟨t, ht⟩) := exponentSign r
    let (ds, ⟨u, hu⟩) := takeDigits t
    if ds = [] then none
    else some (some (signed negative (Decimal.digitsValue ds)), ⟨u, by omega⟩)

/-- The number with the given parts.  A whole number other than `-0` is an integer
where one fits; all others are doubles.  A numeral is read exactly: the double is the
nearest one, rounded once.  `pq` rounds twice, the digits first and then their product
or quotient with the power of ten, and may miss the nearest: it reads `1e-23` as
`1.0000000000000001e-23`. -/
def numberOfParts? (negative : Bool) (whole fraction : List Char) (exponent : Option Int) :
    Option Number :=
  let double? :=
    (Decimal.toDouble? ⟨negative, Decimal.digitsValue (whole ++ fraction),
      exponent.getD 0 - fraction.length⟩).map Number.double
  match fraction, exponent with
  | [], none =>
    let n := Decimal.digitsValue whole
    if negative ∧ n = 0 then double?
    else (Number.ofInt? (signed negative n)).or double?
  | _, _ => double?

/-- The digits before the point: a lone zero, or digits that start with no zero. -/
def wholeDigits? (s : List Char) : Option (List Char × Shorter s) :=
  match s with
  | [] => none
  | d :: r =>
    let (ds, u) := takeDigits r
    if isDigit d ∧ (d ≠ '0' ∨ ds = []) then some (d :: ds, u.shorterCons) else none

/-- A number without its sign, taken off the front. -/
def unsigned? (negative : Bool) (s : List Char) : Option (Json × Shorter s) :=
  match wholeDigits? s with
  | none => none
  | some (whole, ⟨r, hr⟩) =>
    match fraction? r with
    | none => none
    | some (fraction, ⟨t, ht⟩) =>
      match exponent? t with
      | none => none
      | some (exponent, ⟨u, hu⟩) =>
        (numberOfParts? negative whole fraction exponent).map fun n =>
          (number n, ⟨u, by omega⟩)

/-- A number taken off the front. -/
def number? (s : List Char) : Option (Json × Shorter s) :=
  match afterChar? '-' s with
  | some ⟨r, hr⟩ => (unsigned? true r).map fun p => (p.1, p.2.trans hr)
  | none => unsigned? false s

/-! ### Strings -/

/-- The value of four hexadecimal digits. -/
def hexValue? (a b c d : Char) : Option Nat := do
  let a ← hexDigit? a
  let b ← hexDigit? b
  let c ← hexDigit? c
  let d ← hexDigit? d
  return ((a * 16 + b) * 16 + c) * 16 + d

/-- The character that stands for itself after a backslash, or that the letter there
stands for. -/
def shortEscape? (c : Char) : Option Char :=
  if c = '"' ∨ c = '\\' ∨ c = '/' then some c
  else if c = 'b' then some '\x08'
  else if c = 'f' then some '\x0c'
  else if c = 'n' then some '\n'
  else if c = 'r' then some '\r'
  else if c = 't' then some '\t'
  else none

/-- The character of two code units that form a surrogate pair. -/
def ofSurrogates? (high low : Nat) : Option Char :=
  if 0xd800 ≤ high ∧ high < 0xdc00 ∧ 0xdc00 ≤ low ∧ low < 0xe000 then
    some (Char.ofNat (0x10000 + (high - 0xd800) * 0x400 + (low - 0xdc00)))
  else none

/-- The character of the code unit `n`, whose escape has just been read: by itself, or
with the escape that follows if `n` is the first of a surrogate pair. -/
def unitChar? (n : Nat) (s : List Char) : Option (Char × NoLonger s) :=
  match charOf? n with
  | some ch => some (ch, .self s)
  | none =>
    match s with
    | b :: u :: p :: q :: x :: y :: r =>
      if b = '\\' ∧ u = 'u' then
        ((hexValue? p q x y).bind (ofSurrogates? n)).map fun ch =>
          (ch, ⟨r, by simp only [List.length_cons]; omega⟩)
      else none
    | _ => none

/-- What follows a backslash, and the character that the two stand for. -/
def escape? (s : List Char) : Option (Char × Shorter s) :=
  match s with
  | [] => none
  | c :: r =>
    if c = 'u' then
      match r with
      | p :: q :: x :: y :: t =>
        match hexValue? p q x y with
        | none => none
        | some n =>
          (unitChar? n t).map fun u =>
            (u.1, ⟨u.2.1, by have := u.2.2; simp only [List.length_cons]; omega⟩)
      | _ => none
    else (shortEscape? c).map fun ch => (ch, .tail r)

/-- The characters of a string up to its closing quote, and the text after it. -/
def stringRest? (s : List Char) : Option (List Char × Shorter s) :=
  match s with
  | [] => none
  | c :: r =>
    if c = '"' then some ([], .tail r)
    else if c = '\\' then
      match escape? r with
      | none => none
      | some (ch, ⟨t, ht⟩) =>
        (stringRest? t).map fun p =>
          (ch :: p.1, ⟨p.2.1, by have := p.2.2; simp only [List.length_cons]; omega⟩)
    else if c.toNat < 0x20 then none
    else (stringRest? r).map fun p => (c :: p.1, p.2.cons)
termination_by s.length
decreasing_by
  · simp only [List.length_cons]; omega
  · exact Nat.lt_succ_self _

/-! ### Values -/

mutual

/-- A value taken off the front of a text that starts with no blank; arrays and
objects may be nested `room` deep. -/
def value? (room : Nat) (s : List Char) : Option (Json × Shorter s) :=
  match s with
  | [] => none
  | c :: r =>
    if c = 'n' then
      (afterWord? ['u', 'l', 'l'] r).map fun u => (null, u.shorterCons)
    else if c = 't' then
      (afterWord? ['r', 'u', 'e'] r).map fun u => (bool true, u.shorterCons)
    else if c = 'f' then
      (afterWord? ['a', 'l', 's', 'e'] r).map fun u => (bool false, u.shorterCons)
    else if c = '"' then
      (stringRest? r).map fun p => (string (String.ofList p.1), p.2.cons)
    else if c = '[' then
      match room with
      | 0 => none
      | room + 1 =>
        match skipSpace r with
        | ⟨t, ht⟩ =>
          match afterChar? ']' t with
          | some ⟨u, hu⟩ => some (array [], ⟨u, by simp only [List.length_cons]; omega⟩)
          | none =>
            (items? room t).map fun p =>
              (array p.1, ⟨p.2.1, by have := p.2.2; simp only [List.length_cons]; omega⟩)
    else if c = '\x7b' then
      match room with
      | 0 => none
      | room + 1 =>
        match skipSpace r with
        | ⟨t, ht⟩ =>
          match afterChar? '\x7d' t with
          | some ⟨u, hu⟩ => some (object [], ⟨u, by simp only [List.length_cons]; omega⟩)
          | none =>
            (members? room t).map fun p =>
              (object p.1, ⟨p.2.1, by have := p.2.2; simp only [List.length_cons]; omega⟩)
    else number? (c :: r)
termination_by 2 * s.length
decreasing_by
  all_goals simp only [List.length_cons]; omega

/-- The items of an array up to its closing bracket; there is at least one. -/
def items? (room : Nat) (s : List Char) : Option (List Json × Shorter s) :=
  match skipSpace s with
  | ⟨t, ht⟩ =>
    match value? room t with
    | none => none
    | some (x, ⟨r, hr⟩) =>
      match skipSpace r with
      | ⟨u, hu⟩ =>
        match afterChar? ',' u with
        | some ⟨w, hw⟩ =>
          (items? room w).map fun p => (x :: p.1, ⟨p.2.1, by have := p.2.2; omega⟩)
        | none => (afterChar? ']' u).map fun w => ([x], ⟨w.1, by have := w.2; omega⟩)
termination_by 2 * s.length + 1
decreasing_by
  all_goals omega

/-- A key, the colon after it and the member's value. -/
def member? (room : Nat) (s : List Char) : Option ((String × Json) × Shorter s) :=
  match afterChar? '"' s with
  | none => none
  | some ⟨k, hk⟩ =>
    match stringRest? k with
    | none => none
    | some (key, ⟨r, hr⟩) =>
      match skipSpace r with
      | ⟨t, ht⟩ =>
        match afterChar? ':' t with
        | none => none
        | some ⟨u, hu⟩ =>
          match skipSpace u with
          | ⟨w, hw⟩ =>
            (value? room w).map fun p =>
              ((String.ofList key, p.1), ⟨p.2.1, by have := p.2.2; omega⟩)
termination_by 2 * s.length
decreasing_by omega

/-- The members of an object up to its closing brace; there is at least one. -/
def members? (room : Nat) (s : List Char) : Option (List (String × Json) × Shorter s) :=
  match skipSpace s with
  | ⟨t, ht⟩ =>
    match member? room t with
    | none => none
    | some (m, ⟨r, hr⟩) =>
      match skipSpace r with
      | ⟨u, hu⟩ =>
        match afterChar? ',' u with
        | some ⟨w, hw⟩ =>
          (members? room w).map fun p => (m :: p.1, ⟨p.2.1, by have := p.2.2; omega⟩)
        | none => (afterChar? '\x7d' u).map fun w => ([m], ⟨w.1, by have := w.2; omega⟩)
termination_by 2 * s.length + 1
decreasing_by
  all_goals omega

end

end Reader

/-- How deep arrays and objects may be nested. -/
def depthLimit : Nat := 127

/-- A text that is one value with blanks around it, nested at most `room` deep. -/
def readWithin? (room : Nat) (s : List Char) : Option Json :=
  match Reader.value? room (Reader.skipSpace s).1 with
  | some (v, ⟨r, _⟩) => if r.all Reader.isSpace then some v else none
  | none => none

/-- A text that is one value with blanks around it. -/
def read? (s : String) : Option Json := readWithin? depthLimit s.toList

end Json
end PathQuery
