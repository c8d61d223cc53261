import PathQuery.Toml.Basic

/-! # Numbers in TOML

Integers are decimal with a sign, or hexadecimal, octal or binary without one; doubles
have a fraction, an exponent or both.  A single underscore may stand between two digits.
An integer out of the signed 64-bit range is refused, and so is a double that overflows,
unless it is negative: that one is minus infinity. -/
namespace PathQuery.Toml

open Text

/-- Digits after a first one, with single underscores between them, taken off the
front. -/
def moreDigits (p : Char → Bool) : (s : List Char) → List Char × NoLonger s
  | [] => ([], NoLonger.self [])
  | c :: s =>
    if p c then
      let q := moreDigits p s
      (c :: q.1, q.2.cons)
    else if c = '_' ∧ s.head?.any p then
      let q := moreDigits p s
      (q.1, q.2.cons)
    else ([], NoLonger.self (c :: s))

/-- Digits with single underscores between them, taken off the front. -/
def digits? (p : Char → Bool) (s : List Char) : Option (List Char × Shorter s) :=
  match s with
  | [] => none
  | c :: r =>
    if p c then
      let q := moreDigits p r
      some (c :: q.1, q.2.shorterCons)
    else none

/-- A sign, if there is one: whether it is a minus. -/
def takeSign (s : List Char) : Bool × NoLonger s :=
  match afterOptional '-' s with
  | (true, r) => (true, r)
  | (false, _) => (false, (afterOptional '+' s).2)

/-- The digits of a decimal integer: a lone zero, or digits that start with no zero. -/
def whole? (s : List Char) : Option (List Char × Shorter s) :=
  match s with
  | [] => none
  | c :: r =>
    if c = '0' then some ([c], .tail r) else digits? isDigit (c :: r)

/-- A fraction, if there is one; `none` for a point without digits after it. -/
def fraction? (s : List Char) : Option (List Char × NoLonger s) :=
  match afterChar? '.' s with
  | none => some ([], .self s)
  | some ⟨r, hr⟩ => (digits? isDigit r).map fun p => (p.1, (p.2.trans hr).noLonger)

/-- An exponent, if there is one; `none` for an `e` without digits after it. -/
def exponent? (s : List Char) : Option (Option Int × NoLonger s) :=
  match afterAny? ['e', 'E'] s with
  | none => some (none, .self s)
  | some ⟨r, hr⟩ =>
    match takeSign r with
    | (negative, ⟨t, ht⟩) =>
      (digits? isDigit t).map fun p =>
        (some (signed negative (Decimal.digitsValue p.1)), ((p.2.transLe ht).trans hr).noLonger)

/-- The floating-point number of a numeral. -/
def floatOf? (d : Decimal) : Option Floating :=
  match d.toDouble? with
  | some x => some (.finite x)
  | none => if d.negative then some (.infinite true) else none

/-- A decimal number taken off the front. -/
def decimal? (s : List Char) : Option (Toml × Shorter s) :=
  match takeSign s with
  | (negative, ⟨r, hr⟩) =>
    match whole? r with
    | none => none
    | some (whole, ⟨t, ht⟩) =>
      match fraction? t with
      | none => none
      | some (fraction, ⟨u, hu⟩) =>
        match exponent? u with
        | none => none
        | some (exponent, v) =>
          let value? :=
            if fraction = [] ∧ exponent = none then
              ofInt? (signed negative (Decimal.digitsValue whole))
            else
              (floatOf? ⟨negative, Decimal.digitsValue (whole ++ fraction),
                exponent.getD 0 - fraction.length⟩).map .float
          value?.map fun n => (n, ((v.transLe hu).shorter ht).transLe hr)

/-- A floating-point number by name, with a sign or none. -/
def named? (s : List Char) : Option (Toml × NoLonger s) :=
  match takeSign s with
  | (negative, ⟨r, hr⟩) =>
    match afterWord? ['i', 'n', 'f'] r, afterWord? ['n', 'a', 'n'] r with
    | some t, _ => some (.float (.infinite negative), t.transLe hr)
    | none, some t => some (.float (.notANumber negative), t.transLe hr)
    | none, none => none

/-- Whether `c` is an octal digit. -/
def isOctal (c : Char) : Bool := '0' ≤ c && c ≤ '7'

/-- Whether `c` is a binary digit. -/
def isBinary (c : Char) : Bool := c == '0' || c == '1'

/-- The base that a letter after a zero announces, and its digits. -/
def base? (c : Char) : Option (Nat × (Char → Bool)) :=
  if c = 'x' then some (16, fun d => (hexDigit? d).isSome)
  else if c = 'o' then some (8, isOctal)
  else if c = 'b' then some (2, isBinary)
  else none

/-- The value of digits in a base. -/
def valueIn (base : Nat) (ds : List Char) : Nat :=
  ds.foldl (fun n d => base * n + (hexDigit? d).getD 0) 0

/-- An integer in another base than ten, taken off the front; `none` if the text does
not start like one, `some none` if it is not well formed or out of range. -/
def based? (s : List Char) : Option (Option (Toml × Shorter s)) :=
  match s with
  | z :: c :: r =>
    if z = '0' then
      (base? c).map fun b =>
        match digits? b.2 r with
        | none => none
        | some (ds, t) => (ofInt? (valueIn b.1 ds)).map fun n => (n, t.cons.cons)
    else none
  | _ => none

/-- A date, time or number taken off the front. -/
def scalar? (s : List Char) : Option (Toml × NoLonger s) :=
  match datetime? s with
  | some (d, r) => some (.datetime d, r.noLonger)
  | none =>
    match based? s with
    | some p => p.map fun q => (q.1, q.2.noLonger)
    | none =>
      match named? s with
      | some p => some p
      | none => (decimal? s).map fun q => (q.1, q.2.noLonger)

end PathQuery.Toml
