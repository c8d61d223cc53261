import PathQuery.Text.Rest

/-! # Strings in TOML

The four ways of writing a string: in double quotes with escapes or in single quotes as
it is, each on one line or, with three quotes, on several.  A line break just after three
opening quotes does not count, a backslash at the end of a line swallows the blanks that
follow, and one or two quotes may stand inside three. -/
namespace PathQuery.Toml

open Text

/-- Whether `c` may stand in a string or a comment as it is: no control character but
the tab. -/
def isPlain (c : Char) : Bool := c == '\t' || (0x20 ≤ c.toNat && c != '\x7f')

/-- The text after a line break, if it starts with one: a line feed, or a carriage return
and a line feed. -/
def lineBreak? (s : List Char) : Option (Shorter s) :=
  match s with
  | [] => none
  | c :: r =>
    if c = '\n' then some (.tail r)
    else if c = '\r' then
      (afterChar? '\n' r).map fun t => t.cons
    else none

/-- The text after the blanks it starts with. -/
def skipSpace (s : List Char) : NoLonger s := skipWhile (fun c => c == ' ' || c == '\t') s

/-- The text after the blanks and line breaks it starts with. -/
def skipLines (s : List Char) : NoLonger s :=
  match skipSpace s with
  | ⟨t, ht⟩ =>
    match lineBreak? t with
    | none => ⟨t, ht⟩
    | some r =>
      match r.transLe ht with
      | ⟨u, hu⟩ => (skipLines u).trans hu
termination_by s.length
decreasing_by exact hu

/-- The character whose code point has just `width` hexadecimal digits. -/
def codePoint? (width : Nat) (s : List Char) : Option (Char × NoLonger s) :=
  go width 0 s
where
  /-- The character of the code point that `n` and the next digits form. -/
  go : (width n : Nat) → (s : List Char) → Option (Char × NoLonger s)
    | 0, n, s => (charOf? n).map fun c => (c, .self s)
    | _ + 1, _, [] => none
    | width + 1, n, c :: s =>
      match hexDigit? c with
      | none => none
      | some d =>
        (go width (16 * n + d) s).map fun p => (p.1, p.2.cons)

/-- The character that a letter or mark after a backslash stands for. -/
def shortEscape? (c : Char) : Option Char :=
  if c = 'b' then some '\x08'
  else if c = 't' then some '\t'
  else if c = 'n' then some '\n'
  else if c = 'f' then some '\x0c'
  else if c = 'r' then some '\r'
  else if c = '"' ∨ c = '\\' then some c
  else none

/-- An escape without its backslash, taken off the front. -/
def escape? (s : List Char) : Option (Char × Shorter s) :=
  match s with
  | [] => none
  | c :: r =>
    if c = 'u' then
      (codePoint? 4 r).map fun p => (p.1, p.2.shorterCons)
    else if c = 'U' then
      (codePoint? 8 r).map fun p => (p.1, p.2.shorterCons)
    else (shortEscape? c).map fun d => (d, .tail r)

/-- A string on one line, up to its closing quote; only double quotes know escapes. -/
def lineString? (quote : Char) (s : List Char) : Option (List Char × Shorter s) :=
  match s with
  | [] => none
  | c :: r =>
    if c = quote then some ([], .tail r)
    else if c = '\\' ∧ quote = '"' then
      match escape? r with
      | none => none
      | some (d, ⟨t, ht⟩) =>
        (lineString? quote t).map fun p => (d :: p.1, (p.2.trans ht).cons)
    else if isPlain c then
      (lineString? quote r).map fun p => (c :: p.1, p.2.cons)
    else none
termination_by s.length
decreasing_by
  · exact Nat.lt_succ_of_lt ht
  · exact Nat.lt_succ_self _

/-- What follows a backslash at the end of a line: blanks, a line break, and then any
blanks and line breaks. -/
def continuation? (s : List Char) : Option (Shorter s) :=
  match skipSpace s with
  | ⟨t, ht⟩ =>
    match lineBreak? t with
    | none => none
    | some ⟨r, hr⟩ => some (((skipLines r).shorter hr).transLe ht)

/-- A string on several lines, up to its three closing quotes.  Of up to five quotes in
a row at the end the last three close it. -/
def blockString? (quote : Char) (s : List Char) : Option (List Char × Shorter s) :=
  match s with
  | [] => none
  | c :: r =>
    if c = quote then
      let quotes := ((c :: r).takeWhile (· == quote)).length
      if quotes < 3 then
        (blockString? quote r).map fun p => (c :: p.1, p.2.cons)
      else
        let inside := min 2 (quotes - 3)
        some (List.replicate inside quote, (NoLonger.drop (inside + 2) r).shorterCons)
    else if c = '\\' ∧ quote = '"' then
      match continuation? r with
      | some ⟨t, ht⟩ =>
        (blockString? quote t).map fun p => (p.1, (p.2.trans ht).cons)
      | none =>
        match escape? r with
        | none => none
        | some (d, ⟨t, ht⟩) =>
          (blockString? quote t).map fun p => (d :: p.1, (p.2.trans ht).cons)
    else if isPlain c then
      (blockString? quote r).map fun p => (c :: p.1, p.2.cons)
    else
      match lineBreak? (c :: r) with
      | none => none
      | some ⟨t, ht⟩ =>
        (blockString? quote t).map fun p => ('\n' :: p.1, p.2.trans ht)
termination_by s.length
decreasing_by
  · exact Nat.lt_succ_self _
  · exact Nat.lt_succ_of_lt ht
  · exact Nat.lt_succ_of_lt ht
  · exact Nat.lt_succ_self _
  · exact ht

/-- The text after a line break that follows three opening quotes. -/
def dropBreak (s : List Char) : NoLonger s :=
  match lineBreak? s with
  | some r => r.noLonger
  | none => .self s

/-- A string on one line, taken off the front. -/
def keyString? (s : List Char) : Option (List Char × Shorter s) :=
  match s with
  | [] => none
  | c :: r =>
    if c = '"' ∨ c = '\'' then
      (lineString? c r).map fun p => (p.1, p.2.cons)
    else none

/-- A string of any kind, taken off the front. -/
def string? (s : List Char) : Option (List Char × Shorter s) :=
  match s with
  | c :: d :: e :: r =>
    if (c = '"' ∨ c = '\'') ∧ d = c ∧ e = c then
      match dropBreak r with
      | ⟨t, ht⟩ =>
        (blockString? c t).map fun p => (p.1, (p.2.transLe ht).cons.cons.cons)
    else keyString? (c :: d :: e :: r)
  | s => keyString? s

end PathQuery.Toml
