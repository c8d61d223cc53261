import Mathlib.Data.List.Basic
import PathQuery.Proofs.Text.Taking
import PathQuery.Toml.Quoted
import PathQuery.Toml.Text

/-! # Strings are read back

A string that is written as TOML is read as this string (`Toml.taken_string?_stringChars`),
whichever of the quotes it is written in.

On one line a character is written in a way that the reader takes off for this character, or is
taken as it is.  Between three quotes the quotes of the string themselves may stand, at most two
in a row, and those at the end join the ones that close it; `Toml.Body` says which texts may
stand there, and one induction on it covers both kinds of quotes. -/
namespace PathQuery.Toml

open Text

/-! ### Characters -/

/-- The characters that a backslash can hide: none of them starts a line's continuation. -/
def isMark (c : Char) : Bool := !(c == ' ' || c == '\t' || c == '\n' || c == '\r')

/-- A text that is read, after a backslash, as a character. -/
structure Escapes (w : List Char) (c : Char) : Prop where
  front : ∃ d v, isMark d = true ∧ w = d :: v
  read : ∀ r, taken (escape? (w ++ r)) = some (c, r)

theorem escapes_short {c d : Char} (hmark : isMark d = true) (hu : d ≠ 'u') (hU : d ≠ 'U')
    (h : shortEscape? d = some c) : Escapes [d] c where
  front := ⟨d, [], hmark, rfl⟩
  read r := by simp [escape?, hu, hU, h]

theorem hexDigit?_capitalDigit {n : Nat} (h : n < 16) : hexDigit? (capitalDigit n) = some n := by
  revert n
  decide

/-- The code of a character below 128, in four digits. -/
theorem escapes_code {c : Char} (h : c.toNat < 0x80) :
    Escapes ['u', '0', '0', capitalDigit (c.toNat / 16), capitalDigit (c.toNat % 16)] c where
  front := ⟨_, _, by decide, rfl⟩
  read r := by
    have hzero : hexDigit? '0' = some 0 := by decide
    have hchar : charOf? c.toNat = some c := by
      have hvalid : c.toNat.isValidChar := c.valid
      rw [charOf?, if_pos hvalid, Char.ofNat_toNat]
    have hcode : 16 * (c.toNat / 16) + c.toNat % 16 = c.toNat := Nat.div_add_mod ..
    simp [escape?, codePoint?, codePoint?.go, hzero,
      hexDigit?_capitalDigit (show c.toNat / 16 < 16 by omega),
      hexDigit?_capitalDigit (show c.toNat % 16 < 16 by omega), hcode, hchar]

/-- How a character is written between double quotes, unless it is a quote that goes without an
escape. -/
def escapedChar (lines : Bool) (c : Char) : List Char :=
  if c = '"' then ['\\', '"']
  else if c = '\x08' then ['\\', 'b']
  else if c = '\t' then ['\\', 't']
  else if c = '\n' then (if lines then ['\n'] else ['\\', 'n'])
  else if c = '\x0c' then ['\\', 'f']
  else if c = '\r' then ['\\', 'r']
  else if c = '\\' then ['\\', '\\']
  else if isControl c then
    ['\\', 'u', '0', '0', capitalDigit (c.toNat / 16), capitalDigit (c.toNat % 16)]
  else [c]

theorem escaped_cons (allowed : Nat) (lines : Bool) (row : Nat) (c : Char) (s : List Char) :
    escaped allowed lines row (c :: s) =
      if c = '"' ∧ row < allowed then '"' :: escaped allowed lines (row + 1) s
      else escapedChar lines c ++ escaped allowed lines 0 s := by
  by_cases hq : c = '"'
  · by_cases hrow : row < allowed
    · simp [escaped, hq, hrow]
    · simp [escaped, escapedChar, hq, hrow]
  · simp [escaped, escapedChar, hq]

theorem isPlain_of_not_isControl {c : Char} (h : isControl c = false) (hn : c ≠ '\n') :
    isPlain c = true := by
  simp only [isControl, Bool.or_eq_false_iff, Bool.and_eq_false_iff, beq_eq_false_iff_ne,
    bne_eq_false_iff_eq, decide_eq_false_iff_not, Nat.not_lt] at h
  obtain ⟨(h | rfl) | rfl, hdel⟩ := h
  · simp [isPlain, h, hdel]
  · decide
  · exact absurd rfl hn

/-- A character is written after a backslash, as a line break, or as it is. -/
theorem escapedChar_cases (lines : Bool) (c : Char) :
    (∃ w, escapedChar lines c = '\\' :: w ∧ Escapes w c) ∨
      (lines = true ∧ c = '\n' ∧ escapedChar lines c = ['\n']) ∨
      (c ≠ '"' ∧ c ≠ '\\' ∧ c ≠ '\n' ∧ isPlain c = true ∧ escapedChar lines c = [c]) := by
  by_cases hshort : c ∈ ['"', '\x08', '\t', '\x0c', '\r', '\\']
  · left
    have hwritten : ∃ d, escapedChar lines c = ['\\', d] ∧ isMark d = true ∧ d ≠ 'u' ∧ d ≠ 'U' ∧
        shortEscape? d = some c := by
      revert hshort c
      simp only [List.forall_mem_cons]
      refine ⟨⟨'"', ?_⟩, ⟨'b', ?_⟩, ⟨'t', ?_⟩, ⟨'f', ?_⟩, ⟨'r', ?_⟩, ⟨'\\', ?_⟩,
        List.forall_mem_nil _⟩ <;> revert lines <;> decide
    obtain ⟨d, hd, hmark, hu, hU, h⟩ := hwritten
    exact ⟨[d], hd, escapes_short hmark hu hU h⟩
  · simp only [List.mem_cons, List.not_mem_nil, or_false, not_or] at hshort
    obtain ⟨h1, h2, h3, h4, h5, h6⟩ := hshort
    by_cases hn : c = '\n'
    · subst hn
      cases lines with
      | true => exact .inr (.inl ⟨rfl, rfl, rfl⟩)
      | false =>
        exact .inl ⟨['n'], rfl, escapes_short (by decide) (by decide) (by decide) (by decide)⟩
    · simp only [escapedChar, h1, h2, h3, h4, h5, h6, hn, if_false]
      cases hc : isControl c with
      | true =>
        refine .inl ⟨_, rfl, escapes_code ?_⟩
        simp only [isControl, Bool.or_eq_true, Bool.and_eq_true, decide_eq_true_eq,
          beq_iff_eq] at hc
        rcases hc with hc | rfl
        · omega
        · decide
      | false =>
        exact .inr (.inr ⟨h1, h6, hn, isPlain_of_not_isControl hc hn, rfl⟩)

/-! ### One line -/

theorem taken_lineString?_quote (q : Char) (r : List Char) :
    taken (lineString? q (q :: r)) = some ([], r) := by
  rw [lineString?, if_pos rfl]
  rfl

theorem taken_lineString?_plain {q c : Char} (hq : c ≠ q) (hb : ¬ (c = '\\' ∧ q = '"'))
    (hc : isPlain c = true) (r : List Char) :
    taken (lineString? q (c :: r)) = (taken (lineString? q r)).map fun p => (c :: p.1, p.2) := by
  rw [lineString?, if_neg hq, if_neg hb, if_pos hc]
  cases lineString? q r <;> rfl

theorem taken_lineString?_escape {c : Char} {s r : List Char}
    (h : taken (escape? s) = some (c, r)) :
    taken (lineString? '"' ('\\' :: s)) =
      (taken (lineString? '"' r)).map fun p => (c :: p.1, p.2) := by
  obtain ⟨_, he⟩ := taken_eq_some.mp h
  rw [lineString?, if_neg (by decide), if_pos ⟨rfl, rfl⟩, he]
  dsimp only
  cases lineString? '"' r <;> rfl

theorem taken_lineString?_escapedChar (c : Char) (r : List Char) :
    taken (lineString? '"' (escapedChar false c ++ r)) =
      (taken (lineString? '"' r)).map fun p => (c :: p.1, p.2) := by
  rcases escapedChar_cases false c with ⟨w, hw, he⟩ | ⟨h, -⟩ | ⟨hq, hb, -, hc, hw⟩
  · rw [hw]
    exact taken_lineString?_escape (he.read r)
  · cases h
  · rw [hw]
    exact taken_lineString?_plain hq (fun h => hb h.1) hc r

/-- With all quotes escaped, a string on one line is read back. -/
theorem taken_lineString?_escaped (s r : List Char) :
    taken (lineString? '"' (escaped 0 false 0 s ++ '"' :: r)) = some (s, r) := by
  induction s with
  | nil => exact taken_lineString?_quote '"' r
  | cons c s ih =>
    rw [escaped_cons, if_neg (by simp), List.append_assoc, taken_lineString?_escapedChar, ih]
    rfl

/-- Between single quotes a string without them is read as it is. -/
theorem taken_lineString?_raw {s : List Char} (hs : ∀ c ∈ s, c ≠ '\'' ∧ isPlain c = true)
    (r : List Char) : taken (lineString? '\'' (s ++ '\'' :: r)) = some (s, r) := by
  induction s with
  | nil => exact taken_lineString?_quote '\'' r
  | cons c s ih =>
    obtain ⟨⟨hq, hc⟩, hs⟩ := List.forall_mem_cons.mp hs
    rw [List.cons_append, taken_lineString?_plain hq (by simp) hc, ih hs]
    rfl

/-! ### Between three quotes -/

/-- A text that does not start with the quote `q` and is read as a character between three of
them. -/
structure Stands (q : Char) (w : List Char) (c : Char) : Prop where
  front : ∃ d v, d ≠ q ∧ w = d :: v
  read : ∀ r, taken (blockString? q (w ++ r)) =
    (taken (blockString? q r)).map fun p => (c :: p.1, p.2)

/-- What may stand between three quotes, and the string it stands for; `row` quotes stand just
before it, and there are never three in a row. -/
inductive Body (q : Char) : Nat → List Char → List Char → Prop
  | nil {row : Nat} : Body q row [] []
  | quote {row : Nat} {w s : List Char} (hrow : row < 2) (h : Body q (row + 1) w s) :
      Body q row (q :: w) (q :: s)
  | other {row : Nat} {v w s : List Char} {c : Char} (hv : Stands q v c) (h : Body q 0 w s) :
      Body q row (v ++ w) (c :: s)

theorem taken_blockString?_plain {q c : Char} (hq : c ≠ q) (hb : ¬ (c = '\\' ∧ q = '"'))
    (hc : isPlain c = true) (r : List Char) :
    taken (blockString? q (c :: r)) = (taken (blockString? q r)).map fun p => (c :: p.1, p.2) := by
  rw [blockString?, if_neg hq, if_neg hb, if_pos hc]
  cases blockString? q r <;> rfl

theorem taken_blockString?_lineFeed {q : Char} (hq : '\n' ≠ q) (r : List Char) :
    taken (blockString? q ('\n' :: r)) =
      (taken (blockString? q r)).map fun p => ('\n' :: p.1, p.2) := by
  have hbreak : lineBreak? ('\n' :: r) = some ⟨r, Nat.lt_succ_self _⟩ := rfl
  rw [blockString?, if_neg hq, if_neg (by simp), if_neg (by decide), hbreak]
  dsimp only
  cases blockString? q r <;> rfl

theorem continuation?_of_isMark {d : Char} (h : isMark d = true) (r : List Char) :
    continuation? (d :: r) = none := by
  simp only [isMark, Bool.not_eq_true', Bool.or_eq_false_iff, beq_eq_false_iff_ne] at h
  obtain ⟨⟨⟨hspace, htab⟩, hfeed⟩, hreturn⟩ := h
  have hskip : skipSpace (d :: r) = ⟨d :: r, Nat.le_refl _⟩ :=
    Subtype.ext (by simp [skipSpace, skipWhile, hspace, htab])
  have hbreak : lineBreak? (d :: r) = none := by simp [lineBreak?, hfeed, hreturn]
  rw [continuation?, hskip]
  dsimp only
  rw [hbreak]

theorem taken_blockString?_escape {c : Char} {s r : List Char} (hs : continuation? s = none)
    (h : taken (escape? s) = some (c, r)) :
    taken (blockString? '"' ('\\' :: s)) =
      (taken (blockString? '"' r)).map fun p => (c :: p.1, p.2) := by
  obtain ⟨_, he⟩ := taken_eq_some.mp h
  rw [blockString?, if_neg (by decide), if_pos ⟨rfl, rfl⟩, hs]
  dsimp only
  rw [he]
  dsimp only
  cases blockString? '"' r <;> rfl

theorem stands_escape {w : List Char} {c : Char} (h : Escapes w c) : Stands '"' ('\\' :: w) c := by
  refine ⟨⟨'\\', w, by decide, rfl⟩, fun r => ?_⟩
  obtain ⟨d, v, hd, hw⟩ := h.front
  have hnone : continuation? (w ++ r) = none := by
    rw [hw]
    exact continuation?_of_isMark hd (v ++ r)
  exact taken_blockString?_escape hnone (h.read r)

theorem stands_escapedChar (c : Char) : Stands '"' (escapedChar true c) c := by
  rcases escapedChar_cases true c with ⟨w, hw, he⟩ | ⟨-, rfl, hw⟩ | ⟨hq, hb, -, hc, hw⟩
  all_goals rw [hw]
  · exact stands_escape he
  · exact ⟨⟨'\n', [], by decide, rfl⟩, taken_blockString?_lineFeed (by decide)⟩
  · exact ⟨⟨c, [], hq, rfl⟩, taken_blockString?_plain hq (fun h => hb h.1) hc⟩

theorem stands_raw {c : Char} (hq : c ≠ '\'') (hc : isControl c = false) :
    Stands '\'' [c] c := by
  refine ⟨⟨c, [], hq, rfl⟩, ?_⟩
  by_cases hn : c = '\n'
  · subst hn
    exact taken_blockString?_lineFeed (by decide)
  · exact taken_blockString?_plain hq (by simp) (isPlain_of_not_isControl hc hn)

/-- Of the quotes in a row, those that stand in double quotes without an escape are two at
most. -/
theorem body_escaped (row : Nat) (s : List Char) : Body '"' row (escaped 2 true row s) s := by
  induction s generalizing row with
  | nil => exact .nil
  | cons c s ih =>
    rw [escaped_cons]
    split
    · rename_i h
      rw [h.1]
      exact .quote h.2 (ih (row + 1))
    · exact .other (stands_escapedChar c) (ih 0)

theorem le_longestRow (q : Char) (row : Nat) (s : List Char) : row ≤ longestRow q row s := by
  induction s generalizing row with
  | nil => exact Nat.le_refl row
  | cons c s ih =>
    rw [longestRow]
    split
    · exact Nat.le_of_succ_le (ih (row + 1))
    · exact Nat.le_max_left ..

/-- A string in which no quotes are three in a row may stand as it is. -/
theorem body_raw {row : Nat} {s : List Char} (hrow : longestRow '\'' row s ≤ 2)
    (hs : ∀ c ∈ s, isControl c = false) : Body '\'' row s s := by
  induction s generalizing row with
  | nil => exact .nil
  | cons c s ih =>
    obtain ⟨hc, hs⟩ := List.forall_mem_cons.mp hs
    rw [longestRow] at hrow
    split at hrow
    · rename_i hq
      rw [hq]
      have hle := le_longestRow '\'' (row + 1) s
      exact .quote (by omega) (ih hrow hs)
    · rename_i hq
      exact .other (v := [c]) (stands_raw hq hc) (ih (by omega) hs)

/-- Where no two more quotes follow, a quote belongs to the string. -/
theorem taken_blockString?_quote {q : Char} {r : List Char} (hr : ¬ [q, q] <+: r) :
    taken (blockString? q (q :: r)) = (taken (blockString? q r)).map fun p => (q :: p.1, p.2) := by
  have hrow : ((q :: r).takeWhile (· == q)).length < 3 := by
    rcases r with _ | ⟨d, _ | ⟨e, r⟩⟩
    · simp
    · by_cases hd : d = q <;> simp [hd]
    · by_cases hd : d = q
      · by_cases he : e = q
        · exact absurd ⟨r, by simp [hd, he]⟩ hr
        · simp [hd, he]
      · simp [hd]
  rw [blockString?, if_pos rfl]
  dsimp only
  rw [if_pos hrow]
  cases blockString? q r <;> rfl

/-- Of five quotes at most the last three close the string. -/
theorem taken_blockString?_close {q : Char} {n : Nat} (hn : n ≤ 2) {r : List Char}
    (hr : r.head? ≠ some q) :
    taken (blockString? q (List.replicate n q ++ q :: q :: q :: r)) =
      some (List.replicate n q, r) := by
  have hquotes : ∀ m, ((List.replicate m q ++ r).takeWhile (· == q)).length = m := by
    intro m
    rw [List.takeWhile_append_of_pos (by simp +contextual)]
    cases r with
    | nil => simp
    | cons d r =>
      have hd : d ≠ q := fun h => hr (by simp [h])
      simp [hd]
  have htext : List.replicate n q ++ q :: q :: q :: r = q :: (List.replicate (n + 2) q ++ r) := by
    have hcons : q :: (List.replicate (n + 2) q ++ r) = List.replicate (n + 3) q ++ r := rfl
    rw [hcons, List.replicate_add n 3, List.append_assoc]
    rfl
  have hrow : ((q :: (List.replicate (n + 2) q ++ r)).takeWhile (· == q)).length = n + 3 :=
    hquotes (n + 3)
  rw [htext, blockString?, if_pos rfl]
  dsimp only
  rw [if_neg (by omega), taken_some]
  dsimp only
  have hinside : min 2 (n + 3 - 3) = n := by omega
  rw [hrow, hinside, NoLonger.val_shorterCons, NoLonger.val_drop, List.drop_left' (by simp)]

/-- What stands between three quotes is read back. -/
theorem taken_blockString?_body {q : Char} {row : Nat} {w s : List Char} (h : Body q row w s)
    {r : List Char} (hr : r.head? ≠ some q) :
    taken (blockString? q (w ++ q :: q :: q :: r)) = some (s, r) := by
  induction h with
  | nil => exact taken_blockString?_close (n := 0) (Nat.zero_le 2) hr
  | @other row v w s c hv h ih => rw [List.append_assoc, hv.read, ih]; rfl
  | @quote row w s hrow h ih =>
    -- with what follows this quote belongs to the string, unless the string ends in quotes here
    have hquote : ¬ [q, q] <+: w ++ q :: q :: q :: r →
        taken (blockString? q (q :: (w ++ q :: q :: q :: r))) = some (q :: s, r) := by
      intro hnot
      rw [taken_blockString?_quote hnot, ih]
      rfl
    cases h with
    | nil => exact taken_blockString?_close (n := 1) (by decide) hr
    | @other _ v w s c hv h =>
      obtain ⟨d, u, hd, rfl⟩ := hv.front
      exact hquote fun hprefix => hd (List.cons_prefix_cons.mp hprefix).1.symm
    | @quote _ w s hrow' h =>
      cases h with
      | nil => exact taken_blockString?_close (n := 2) (by decide) hr
      | @other _ v w s c hv h =>
        obtain ⟨d, u, hd, rfl⟩ := hv.front
        refine hquote fun hprefix => hd ?_
        exact (List.cons_prefix_cons.mp (List.cons_prefix_cons.mp hprefix).2).1.symm
      | quote hrow'' => omega

/-! ### All forms -/

theorem taken_string?_line {q : Char} (hq : q = '"' ∨ q = '\'') {r : List Char}
    (hr : ¬ [q, q] <+: r) : taken (string? (q :: r)) = taken (lineString? q r) := by
  have hkey : taken (keyString? (q :: r)) = taken (lineString? q r) := by
    rw [keyString?, if_pos hq]
    cases lineString? q r <;> rfl
  rcases r with _ | ⟨d, _ | ⟨e, r⟩⟩
  · exact hkey
  · exact hkey
  · rw [string?, if_neg, hkey]
    rintro ⟨-, rfl, rfl⟩
    exact hr ⟨r, rfl⟩

theorem taken_string?_block {q : Char} (hq : q = '"' ∨ q = '\'') (r : List Char) :
    taken (string? (q :: q :: q :: r)) = taken (blockString? q (dropBreak r).1) := by
  rw [string?, if_pos ⟨hq, rfl, rfl⟩]
  dsimp only
  cases blockString? q (dropBreak r).1 <;> rfl

/-- Text in three quotes is read back: on a line of its own, or where it starts with no line
break. -/
theorem taken_string?_body {q : Char} (hq : q = '"' ∨ q = '\'') {lines : Bool} {w s : List Char}
    (h : Body q 0 w s) (hw : lines = false → ∀ c ∈ w.head?, c ≠ '\n' ∧ c ≠ '\r') {r : List Char}
    (hr : r.head? ≠ some q) : taken (string? (block q lines w ++ r)) = some (s, r) := by
  have hread := taken_blockString?_body h hr
  cases lines with
  | true =>
    have htext : block q true w ++ r = q :: q :: q :: '\n' :: (w ++ q :: q :: q :: r) := by
      simp [block]
    rw [htext, taken_string?_block hq]
    exact hread
  | false =>
    have htext : block q false w ++ r = q :: q :: q :: (w ++ q :: q :: q :: r) := by
      simp [block]
    have hbreak : (dropBreak (w ++ q :: q :: q :: r)).1 = w ++ q :: q :: q :: r := by
      have hnone : lineBreak? (w ++ q :: q :: q :: r) = none := by
        cases w with
        | nil => rcases hq with rfl | rfl <;> rfl
        | cons c w =>
          obtain ⟨hfeed, hreturn⟩ := hw rfl c rfl
          simp [lineBreak?, hfeed, hreturn]
      rw [dropBreak, hnone]
      rfl
    rw [htext, taken_string?_block hq, hbreak]
    exact hread

/-- Without line breaks in the string there is none at the start of its text. -/
theorem head?_escaped {s : List Char} (hn : '\n' ∉ s) (allowed row : Nat) :
    ∀ c ∈ (escaped allowed true row s).head?, c ≠ '\n' ∧ c ≠ '\r' := by
  cases s with
  | nil => exact fun c hc => nomatch hc
  | cons d s =>
    obtain ⟨hd, -⟩ := not_or.mp (mt List.mem_cons.mpr hn)
    rw [escaped_cons]
    split
    · rintro c hc
      cases hc
      decide
    · rcases escapedChar_cases true d with ⟨w, hw, -⟩ | ⟨-, rfl, -⟩ | ⟨-, -, -, hplain, hw⟩
      · rw [hw]
        rintro c hc
        cases hc
        decide
      · exact absurd rfl hd
      · rw [hw]
        rintro c hc
        cases hc
        refine ⟨Ne.symm hd, ?_⟩
        rintro rfl
        exact absurd hplain (by decide)

theorem head?_raw {s : List Char} (hs : ∀ c ∈ s, isControl c = false) (hn : '\n' ∉ s) :
    ∀ c ∈ s.head?, c ≠ '\n' ∧ c ≠ '\r' := by
  intro c hc
  have hmem := List.mem_of_mem_head? hc
  refine ⟨fun h => hn (h ▸ hmem), ?_⟩
  rintro rfl
  exact absurd (hs _ hmem) (by decide)

theorem not_mem_of_longestRow {q : Char} {s : List Char} (h : longestRow q 0 s = 0) : q ∉ s := by
  induction s with
  | nil => exact List.not_mem_nil
  | cons c s ih =>
    rw [longestRow] at h
    split at h
    · have hle := le_longestRow q (0 + 1) s
      omega
    · rename_i hc
      rw [List.mem_cons, not_or]
      exact ⟨Ne.symm hc, ih (by omega)⟩

theorem taken_string?_double (s : List Char) {r : List Char} (hr : r.head? ≠ some '"') :
    taken (string? ('"' :: escaped 0 false 0 s ++ ['"'] ++ r)) = some (s, r) := by
  have htext : '"' :: escaped 0 false 0 s ++ ['"'] ++ r =
      '"' :: (escaped 0 false 0 s ++ '"' :: r) := by
    simp
  rw [htext, taken_string?_line (.inl rfl), taken_lineString?_escaped]
  -- two quotes at the start would be those of an empty string, and no third one follows
  rintro ⟨u, hu⟩
  cases s with
  | nil =>
    obtain rfl := (List.cons.inj hu).2
    exact hr rfl
  | cons c s =>
    rw [escaped_cons, if_neg (by simp)] at hu
    rcases escapedChar_cases false c with ⟨w, hw, -⟩ | ⟨h, -⟩ | ⟨hq, -, -, -, hw⟩
    · rw [hw] at hu
      exact absurd (List.cons.inj hu).1 (by decide)
    · cases h
    · rw [hw] at hu
      exact hq (List.cons.inj hu).1.symm

theorem taken_string?_single {s : List Char} (hs : ∀ c ∈ s, isControl c = false)
    (hq : '\'' ∉ s) (hn : '\n' ∉ s) {r : List Char} (hr : r.head? ≠ some '\'') :
    taken (string? ('\'' :: s ++ ['\''] ++ r)) = some (s, r) := by
  have htext : '\'' :: s ++ ['\''] ++ r = '\'' :: (s ++ '\'' :: r) := by simp
  rw [htext, taken_string?_line (.inr rfl)]
  · refine taken_lineString?_raw (fun c hc => ⟨fun h => hq (h ▸ hc), ?_⟩) r
    exact isPlain_of_not_isControl (hs c hc) (fun h => hn (h ▸ hc))
  · rintro ⟨u, hu⟩
    cases s with
    | nil =>
      obtain rfl := (List.cons.inj hu).2
      exact hr rfl
    | cons c s =>
      obtain rfl := (List.cons.inj hu).1
      exact hq List.mem_cons_self

/-- The forms in which a string is written, with what the string is known not to hold. -/
theorem stringChars_cases (s : List Char) :
    stringChars s = '"' :: escaped 0 false 0 s ++ ['"'] ∨
    (stringChars s = '\'' :: s ++ ['\''] ∧ (∀ c ∈ s, isControl c = false) ∧ '\'' ∉ s ∧ '\n' ∉ s) ∨
    ∃ lines, (lines = false → '\n' ∉ s) ∧
      (stringChars s = block '"' lines (escaped 2 true 0 s) ∨
        stringChars s = block '\'' lines s ∧ (∀ c ∈ s, isControl c = false) ∧
          longestRow '\'' 0 s ≤ 2) := by
  have hcontrol : s.any isControl = false → ∀ c ∈ s, isControl c = false := by simp
  have hfeed : s.contains '\n' = false → '\n' ∉ s := by simp
  unfold stringChars
  dsimp only
  split
  · exact .inl rfl
  split
  · rename_i h
    simp only [Bool.and_eq_true, Bool.not_eq_true', decide_eq_true_eq] at h
    obtain ⟨⟨hc, hrow⟩, hn⟩ := h
    exact .inr (.inl ⟨rfl, hcontrol hc, not_mem_of_longestRow hrow, hfeed hn⟩)
  split
  · exact .inr (.inr ⟨_, hfeed, .inl rfl⟩)
  split
  · rename_i h
    simp only [Bool.and_eq_true, Bool.not_eq_true', decide_eq_true_eq] at h
    exact .inr (.inr ⟨_, hfeed, .inr ⟨rfl, hcontrol h.1, h.2⟩⟩)
  split
  · exact .inr (.inr ⟨true, nofun, .inl rfl⟩)
  · exact .inl rfl

/-- A string is read back, if no quote follows it. -/
theorem taken_string?_stringChars (s : List Char) {r : List Char} (hdouble : r.head? ≠ some '"')
    (hsingle : r.head? ≠ some '\'') : taken (string? (stringChars s ++ r)) = some (s, r) := by
  rcases stringChars_cases s with h | ⟨h, hs, hq, hn⟩ | ⟨lines, hn, h | ⟨h, hs, hrow⟩⟩
  all_goals rw [h]
  · exact taken_string?_double s hdouble
  · exact taken_string?_single hs hq hn hsingle
  · exact taken_string?_body (.inl rfl) (body_escaped 0 s) (fun hl => head?_escaped (hn hl) 2 0)
      hdouble
  · exact taken_string?_body (.inr rfl) (body_raw hrow hs) (fun hl => head?_raw hs (hn hl)) hsingle

end PathQuery.Toml
