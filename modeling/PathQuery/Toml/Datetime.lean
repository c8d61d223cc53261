import PathQuery.Text.Rest

/-! # Dates and times

Dates of the Gregorian calendar, times of the day down to a billionth of a second, and
offsets from universal time; each type holds only what is valid.  They are read in the
form of RFC 3339 and written in it, with a capital `T` and `Z`, without zeros at the end
of a fraction, and with a plus sign before an offset of zero. -/
namespace PathQuery.Toml

open Text

/-- Whether the year has a leap day. -/
def isLeap (year : Nat) : Bool := year % 4 = 0 && (year % 100 ≠ 0 || year % 400 = 0)

/-- The number of days in a month. -/
def daysIn (year month : Nat) : Nat :=
  if month = 2 then (if isLeap year then 29 else 28)
  else if month = 4 ∨ month = 6 ∨ month = 9 ∨ month = 11 then 30
  else 31

/-- A day. -/
structure Date where
  year : Nat
  month : Nat
  day : Nat
  year_lt : year < 10000
  month_valid : 1 ≤ month ∧ month ≤ 12
  day_valid : 1 ≤ day ∧ day ≤ daysIn year month
  deriving DecidableEq, Repr

/-- A time of the day.  The second number 60 is a leap second. -/
structure Time where
  hour : Nat
  minute : Nat
  second : Nat
  nanosecond : Nat
  hour_lt : hour < 24
  minute_lt : minute < 60
  second_le : second ≤ 60
  nanosecond_lt : nanosecond < 1000000000
  deriving DecidableEq, Repr

/-- A distance from universal time, in minutes; `utc` is written as a letter. -/
inductive Offset where
  | utc
  | minutes (m : Int) (valid : -1440 < m ∧ m < 1440)
  deriving DecidableEq, Repr

/-- A day, a time of the day, or both, and then perhaps an offset. -/
inductive Datetime where
  | date (d : Date)
  | time (t : Time)
  | both (d : Date) (t : Time)
  | zoned (d : Date) (t : Time) (o : Offset)
  deriving DecidableEq, Repr

/-! ### Text -/

/-- A number with zeros before it up to a width. -/
def padded (width n : Nat) : List Char :=
  let ds := Nat.toDigits 10 n
  List.replicate (width - ds.length) '0' ++ ds

/-- The text of a day. -/
def Date.chars (d : Date) : List Char :=
  padded 4 d.year ++ '-' :: padded 2 d.month ++ '-' :: padded 2 d.day

/-- The fraction of a second, without zeros at its end; nothing if it is zero. -/
def fractionChars (nanosecond : Nat) : List Char :=
  if nanosecond = 0 then []
  else '.' :: ((padded 9 nanosecond).reverse.dropWhile (· == '0')).reverse

/-- The text of a time. -/
def Time.chars (t : Time) : List Char :=
  padded 2 t.hour ++ ':' :: padded 2 t.minute ++ ':' :: padded 2 t.second ++
    fractionChars t.nanosecond

/-- The text of an offset. -/
def Offset.chars : Offset → List Char
  | utc => ['Z']
  | minutes m _ =>
    (if m < 0 then '-' else '+') ::
      (padded 2 (m.natAbs / 60) ++ ':' :: padded 2 (m.natAbs % 60))

/-- The text of a date or time. -/
def Datetime.chars : Datetime → List Char
  | date d => d.chars
  | time t => t.chars
  | both d t => d.chars ++ 'T' :: t.chars
  | zoned d t o => d.chars ++ 'T' :: t.chars ++ o.chars

/-! ### Reading -/

/-- A number of just `width` digits. -/
def fixed? : (width : Nat) → (s : List Char) → Option (Nat × NoLonger s) :=
  go 0
where
  /-- The number that `n` and the next digits form. -/
  go (n : Nat) : (width : Nat) → (s : List Char) → Option (Nat × NoLonger s)
    | 0, s => some (n, .self s)
    | _ + 1, [] => none
    | width + 1, c :: s =>
      if isDigit c then
        (go (10 * n + (c.toNat - '0'.toNat)) width s).map fun p =>
          (p.1, p.2.cons)
      else none

/-- A day taken off the front. -/
def date? (s : List Char) : Option (Date × Shorter s) :=
  match fixed? 4 s with
  | none => none
  | some (year, ⟨r, hr⟩) =>
    match afterChar? '-' r with
    | none => none
    | some ⟨t, ht⟩ =>
      match fixed? 2 t with
      | none => none
      | some (month, ⟨u, hu⟩) =>
        match afterChar? '-' u with
        | none => none
        | some ⟨v, hv⟩ =>
          match fixed? 2 v with
          | none => none
          | some (day, w) =>
            if h : year < 10000 ∧ (1 ≤ month ∧ month ≤ 12) ∧
                (1 ≤ day ∧ day ≤ daysIn year month) then
              some (⟨year, month, day, h.1, h.2.1, h.2.2⟩,
                (((w.shorter hv).transLe hu).trans ht).transLe hr)
            else none

/-- The billionths of a second that the digits after the point give; more digits than
nine are cut off. -/
def nanoseconds (ds : List Char) : Nat :=
  let ds := ds.take 9
  ds.foldl (fun n d => 10 * n + (d.toNat - '0'.toNat)) 0 * Nat.pow 10 (9 - ds.length)

/-- The fraction of a second taken off the front; zero if there is none. -/
def fraction (s : List Char) : Nat × NoLonger s :=
  match afterChar? '.' s with
  | none => (0, .self s)
  | some ⟨r, hr⟩ =>
    match takeDigits r with
    | ([], _) => (0, .self s)
    | (ds, t) => (nanoseconds ds, t.trans hr)

/-- A time taken off the front. -/
def time? (s : List Char) : Option (Time × Shorter s) :=
  match fixed? 2 s with
  | none => none
  | some (hour, ⟨r, hr⟩) =>
    match afterChar? ':' r with
    | none => none
    | some ⟨t, ht⟩ =>
      match fixed? 2 t with
      | none => none
      | some (minute, ⟨u, hu⟩) =>
        match afterChar? ':' u with
        | none => none
        | some ⟨v, hv⟩ =>
          match fixed? 2 v with
          | none => none
          | some (second, ⟨w, hw⟩) =>
            match fraction w with
            | (nanosecond, x) =>
              if h : hour < 24 ∧ minute < 60 ∧ second ≤ 60 ∧ nanosecond < 1000000000 then
                some (⟨hour, minute, second, nanosecond, h.1, h.2.1, h.2.2.1, h.2.2.2⟩,
                  ((((x.transLe hw).shorter hv).transLe hu).trans ht).transLe hr)
              else none

/-- The offset of so many hours and minutes. -/
def offsetOf? (negative : Bool) (hour minute : Nat) : Option Offset :=
  if h : hour < 24 ∧ minute < 60 then
    let m : Int := (60 * hour + minute : Nat)
    if negative then some (.minutes (-m) (by omega)) else some (.minutes m (by omega))
  else none

/-- An offset taken off the front. -/
def offset? (s : List Char) : Option (Offset × Shorter s) :=
  match s with
  | [] => none
  | c :: r =>
    if c = 'Z' ∨ c = 'z' then some (.utc, .tail r)
    else if c = '+' ∨ c = '-' then
      match fixed? 2 r with
      | none => none
      | some (hour, ⟨t, ht⟩) =>
        match afterChar? ':' t with
        | none => none
        | some ⟨u, hu⟩ =>
          match fixed? 2 u with
          | none => none
          | some (minute, v) =>
            (offsetOf? (c == '-') hour minute).map fun o =>
              (o, ((v.shorter hu).transLe ht).cons)
    else none

/-- A time after a day: a `T` or a space and the time. -/
def timeAfter? (s : List Char) : Option (Time × Shorter s) :=
  match afterAny? ['T', 't', ' '] s with
  | none => none
  | some ⟨r, hr⟩ => (time? r).map fun p => (p.1, p.2.trans hr)

/-- A date or time taken off the front. -/
def datetime? (s : List Char) : Option (Datetime × Shorter s) :=
  match date? s with
  | none => (time? s).map fun p => (.time p.1, p.2)
  | some (d, ⟨r, hr⟩) =>
    match timeAfter? r with
    | none => some (.date d, ⟨r, hr⟩)
    | some (t, ⟨u, hu⟩) =>
      match offset? u with
      | none => some (.both d t, Shorter.trans ⟨u, hu⟩ hr)
      | some (o, v) => some (.zoned d t o, (v.trans hu).trans hr)

/-- The date or time that a text is. -/
def Datetime.read? (s : List Char) : Option Datetime :=
  match datetime? s with
  | some (d, ⟨[], _⟩) => some d
  | _ => none

end PathQuery.Toml
