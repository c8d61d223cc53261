import PathQuery.Json.Text
import PathQuery.Proofs.Json.NumberText

/-! # Scalars are read back

The text of a scalar is read as this scalar (`Json.Reader.taken_value?_scalarChars`).  So scalars
are told apart by their texts (`Json.chars_inj_of_scalar`): strings by the quotes and the
escapes, integers from doubles by a point or an exponent, and doubles from each other because
the digits that are written read back. -/
namespace PathQuery
namespace Json.Reader

open Text

/-! ### Strings -/

theorem taken_stringRest?_quote (r : List Char) :
    taken (stringRest? ('"' :: r)) = some ([], r) := by
  rw [stringRest?, if_pos rfl]
  rfl

theorem taken_stringRest?_plain {c : Char} (hq : c ≠ '"') (hb : c ≠ '\\') (hc : 0x20 ≤ c.toNat)
    (r : List Char) :
    taken (stringRest? (c :: r)) = (taken (stringRest? r)).map fun p => (c :: p.1, p.2) := by
  rw [stringRest?, if_neg hq, if_neg hb, if_neg (Nat.not_lt.mpr hc)]
  cases stringRest? r <;> rfl

theorem taken_stringRest?_escape {c : Char} {s r : List Char}
    (h : taken (escape? s) = some (c, r)) :
    taken (stringRest? ('\\' :: s)) = (taken (stringRest? r)).map fun p => (c :: p.1, p.2) := by
  rw [stringRest?, if_neg (by decide), if_pos rfl]
  cases he : escape? s with
  | none => rw [he] at h; cases h
  | some x =>
    rw [he, taken_some, Option.some.injEq, Prod.mk.injEq] at h
    obtain ⟨rfl, rfl⟩ := h
    dsimp only
    cases stringRest? x.2.1 <;> rfl

theorem taken_escape?_short {c d : Char} (hu : c ≠ 'u') (h : shortEscape? c = some d)
    (r : List Char) : taken (escape? (c :: r)) = some (d, r) := by
  simp [escape?, hu, h]

theorem hexDigit?_hexDigit {n : Nat} (h : n < 16) : hexDigit? (hexDigit n) = some n := by
  revert n
  decide

theorem taken_escape?_unit {c : Char} (h : c.toNat < 0x20) (r : List Char) :
    taken (escape? ('u' :: '0' :: '0' :: hexDigit (c.toNat / 16) :: hexDigit (c.toNat % 16) :: r)) =
      some (c, r) := by
  have hzero : hexDigit? '0' = some 0 := by decide
  have hvalue : hexValue? '0' '0' (hexDigit (c.toNat / 16)) (hexDigit (c.toNat % 16)) =
      some c.toNat := by
    simp only [hexValue?, hzero, hexDigit?_hexDigit (show c.toNat / 16 < 16 by omega),
      hexDigit?_hexDigit (show c.toNat % 16 < 16 by omega)]
    simp
    omega
  have hchar : charOf? c.toNat = some c := by
    have hvalid : c.toNat.isValidChar := c.valid
    rw [charOf?, if_pos hvalid, Char.ofNat_toNat]
  simp [escape?, hvalue, unitChar?, hchar]

/-- A character is written by a short escape, by its code, or as it is. -/
theorem escapeChar_cases (c : Char) :
    (∃ d, escapeChar c = ['\\', d] ∧ d ≠ 'u' ∧ shortEscape? d = some c) ∨
      (c.toNat < 0x20 ∧ escapeChar c =
        ['\\', 'u', '0', '0', hexDigit (c.toNat / 16), hexDigit (c.toNat % 16)]) ∨
      (c ≠ '"' ∧ c ≠ '\\' ∧ 0x20 ≤ c.toNat ∧ escapeChar c = [c]) := by
  by_cases hshort : c ∈ ['"', '\\', '\n', '\r', '\t', '\x08', '\x0c']
  · left
    revert hshort c
    simp only [List.forall_mem_cons]
    refine ⟨⟨'"', ?_⟩, ⟨'\\', ?_⟩, ⟨'n', ?_⟩, ⟨'r', ?_⟩, ⟨'t', ?_⟩, ⟨'b', ?_⟩, ⟨'f', ?_⟩,
      List.forall_mem_nil _⟩ <;> decide
  · right
    simp only [List.mem_cons, List.not_mem_nil, or_false, not_or] at hshort
    obtain ⟨h1, h2, h3, h4, h5, h6, h7⟩ := hshort
    simp only [escapeChar, h1, h2, h3, h4, h5, h6, h7, if_false]
    split
    · rename_i h
      exact .inl ⟨h, rfl⟩
    · rename_i h
      exact .inr ⟨h1, h2, Nat.not_lt.mp h, rfl⟩

/-- A character is read back from its text. -/
theorem taken_stringRest?_escapeChar (c : Char) (r : List Char) :
    taken (stringRest? (escapeChar c ++ r)) =
      (taken (stringRest? r)).map fun p => (c :: p.1, p.2) := by
  rcases escapeChar_cases c with ⟨d, hd, hu, hshort⟩ | ⟨hlt, hd⟩ | ⟨hq, hb, hle, hd⟩
  all_goals rw [hd]
  · exact taken_stringRest?_escape (taken_escape?_short hu hshort r)
  · exact taken_stringRest?_escape (taken_escape?_unit hlt r)
  · exact taken_stringRest?_plain hq hb hle r

theorem taken_stringRest?_flatMap (s r : List Char) :
    taken (stringRest? (s.flatMap escapeChar ++ '"' :: r)) = some (s, r) := by
  induction s with
  | nil => exact taken_stringRest?_quote r
  | cons c s ih =>
    rw [List.flatMap_cons, List.append_assoc, taken_stringRest?_escapeChar, ih]
    rfl

/-! ### Values -/

theorem ne_of_front {c : Char} (h : c = '-' ∨ isDigit c = true) (d : Char) (hd : d ≠ '-')
    (hdigit : isDigit d = false) : c ≠ d := by
  rintro rfl
  rcases h with h | h
  · exact hd h
  · rw [hdigit] at h; cases h

theorem value?_of_front {c : Char} (h : c = '-' ∨ isDigit c = true) (room : Nat) (r : List Char) :
    value? room (c :: r) = number? (c :: r) := by
  have hne := ne_of_front h
  rw [value?.eq_def]
  dsimp only
  rw [if_neg (hne 'n' (by decide) (by decide)), if_neg (hne 't' (by decide) (by decide)),
    if_neg (hne 'f' (by decide) (by decide)), if_neg (hne '"' (by decide) (by decide)),
    if_neg (hne '[' (by decide) (by decide)), if_neg (hne '\x7b' (by decide) (by decide))]

theorem taken_value?_word (room : Nat) (r : List Char) :
    taken (value? room ('n' :: 'u' :: 'l' :: 'l' :: r)) = some (null, r) ∧
    taken (value? room ('t' :: 'r' :: 'u' :: 'e' :: r)) = some (bool true, r) ∧
    taken (value? room ('f' :: 'a' :: 'l' :: 's' :: 'e' :: r)) = some (bool false, r) := by
  refine ⟨?_, ?_, ?_⟩ <;> rw [value?.eq_def] <;> simp [afterWord?]

theorem taken_value?_quote (room : Nat) (r : List Char) :
    taken (value? room ('"' :: r)) =
      (taken (stringRest? r)).map fun p => (string (String.ofList p.1), p.2) := by
  rw [value?.eq_def]
  dsimp only
  cases stringRest? r <;> rfl

theorem taken_value?_string (room : Nat) (s : String) (r : List Char) :
    taken (value? room (stringChars s ++ r)) = some (string s, r) := by
  have hchars : stringChars s ++ r = '"' :: (s.toList.flatMap escapeChar ++ '"' :: r) := by
    simp [stringChars]
  rw [hchars, taken_value?_quote, taken_stringRest?_flatMap, Option.map_some,
    String.ofList_toList]

theorem taken_value?_number (room : Nat) (n : Number) {r : List Char}
    (hr : Stops continuesNumber r) :
    taken (value? room (n.chars ++ r)) = some (number n, r) := by
  obtain ⟨p, negative, hchars, hplain, hvalue⟩ := exists_parts_chars n
  obtain ⟨c, s, hc, hfront⟩ := p.exists_front negative
  have hread : taken (number? (p.chars negative ++ r)) = some (number n, r) := by
    rw [taken_number?_chars p hplain negative hr, hvalue, Option.map_some]
  rw [hchars]
  rw [hc] at hread ⊢
  rw [List.cons_append, value?_of_front hfront]
  exact hread

/-- A scalar is read back from its text. -/
theorem taken_value?_scalarChars (room : Nat) {v : Json} (hv : v.isScalar = true) {r : List Char}
    (hr : Stops continuesNumber r) : taken (value? room (v.scalarChars ++ r)) = some (v, r) := by
  cases v with
  | null => exact (taken_value?_word room r).1
  | bool b =>
    cases b with
    | true => exact (taken_value?_word room r).2.1
    | false => exact (taken_value?_word room r).2.2
  | number n => exact taken_value?_number room n hr
  | string s => exact taken_value?_string room s r
  | array xs => cases hv
  | object ms => cases hv

end Json.Reader

namespace Json

open Text Reader

theorem chars_of_isScalar {v : Json} (hv : v.isScalar = true) : v.chars = v.scalarChars := by
  cases v with
  | array xs => cases hv
  | object ms => cases hv
  | _ => rfl

/-- Scalars of one text are one and the same. -/
theorem chars_inj_of_scalar {v w : Json} (hv : v.isScalar = true) (hw : w.isScalar = true) :
    v.chars = w.chars ↔ v = w := by
  refine ⟨fun h => ?_, congrArg chars⟩
  rw [chars_of_isScalar hv, chars_of_isScalar hw] at h
  have hread := taken_value?_scalarChars 0 hv (stops_nil _)
  rw [h, taken_value?_scalarChars 0 hw (stops_nil _)] at hread
  injection hread with hread
  exact (Prod.mk.inj hread).1.symm

end Json

end PathQuery
