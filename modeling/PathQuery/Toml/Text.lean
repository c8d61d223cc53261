/-! # Strings as TOML

A string is written in the first form that needs no escapes: in double quotes, in single
quotes, or in three of either kind; only if there is none does it get escapes.  A tab
always is an escape in double quotes.  Between three quotes the text starts on a line of
its own if it has several. -/
namespace PathQuery.Toml

/-- Whether `c` is a control character other than a tab or a line feed. -/
def isControl (c : Char) : Bool :=
  (c.toNat < 0x20 && c != '\t' && c != '\n') || c == '\x7f'

/-- The length of the longest row of the character `q`; `now` is that of the row which
ends here. -/
def longestRow (q : Char) (now : Nat) : List Char → Nat
  | [] => now
  | c :: s => if c = q then longestRow q (now + 1) s else max now (longestRow q 0 s)

/-- A digit of a number below 16, a capital letter from ten on. -/
def capitalDigit (n : Nat) : Char :=
  if n < 10 then Char.ofNat ('0'.toNat + n) else Char.ofNat ('A'.toNat + (n - 10))

/-- Characters between double quotes.  Of quotes in a row, `allowed` go without an
escape, and `row` of them have just been written; `lines` tells that line breaks may
stand. -/
def escaped (allowed : Nat) (lines : Bool) (row : Nat) : List Char → List Char
  | [] => []
  | c :: s =>
    if c = '"' then
      if row < allowed then '"' :: escaped allowed lines (row + 1) s
      else '\\' :: '"' :: escaped allowed lines 0 s
    else
      let here :=
        if c = '\x08' then ['\\', 'b']
        else if c = '\t' then ['\\', 't']
        else if c = '\n' then (if lines then ['\n'] else ['\\', 'n'])
        else if c = '\x0c' then ['\\', 'f']
        else if c = '\r' then ['\\', 'r']
        else if c = '\\' then ['\\', '\\']
        else if isControl c then
          ['\\', 'u', '0', '0', capitalDigit (c.toNat / 16), capitalDigit (c.toNat % 16)]
        else [c]
      here ++ escaped allowed lines 0 s

/-- A text between three quotes, on a line of its own if it has several. -/
def block (q : Char) (severalLines : Bool) (s : List Char) : List Char :=
  [q, q, q] ++ (if severalLines then ['\n'] else []) ++ s ++ [q, q, q]

/-- A string as TOML. -/
def stringChars (s : List Char) : List Char :=
  let control := s.any isControl
  let backslash := s.contains '\\'
  let lines := s.contains '\n'
  let double := longestRow '"' 0 s
  let single := longestRow '\'' 0 s
  if !control && !backslash && double = 0 && !lines then
    '"' :: escaped 0 false 0 s ++ ['"']
  else if !control && single = 0 && !lines then '\'' :: s ++ ['\'']
  else if !control && !backslash && double ≤ 2 then block '"' lines (escaped 2 true 0 s)
  else if !control && single ≤ 2 then block '\'' lines s
  else if lines then block '"' true (escaped 2 true 0 s)
  else '"' :: escaped 0 false 0 s ++ ['"']

end PathQuery.Toml
