import PathQuery.Query.Word

/-! # Character classes that stay apart

A query is cut into names, literals, signs and blanks by looking at one character at a
time.  So it matters which classes have no character in common: blanks are no name
characters (`isNameChar_of_isBlank`), and digits are neither blanks nor delimiters.  The
tables behind letters and white space are compared range by range
(`CharSet.contains_of_apart`). -/
namespace PathQuery
namespace Text

namespace CharSet

/-- No range of one set meets a range of the other. -/
def apart (s t : CharSet) : Bool :=
  s.ranges.all fun r => t.ranges.all fun q => r.2 < q.1 || q.2 < r.1

/-- Sets that are apart have no character in common. -/
theorem contains_of_apart {s t : CharSet} (h : s.apart t = true) {c : Char}
    (hc : s.contains c = true) : t.contains c = false := by
  obtain ⟨r, hr, hrc⟩ := List.any_eq_true.mp hc
  apply Bool.eq_false_iff.mpr
  intro ht
  obtain ⟨q, hq, hqc⟩ := List.any_eq_true.mp ht
  have hrq := List.all_eq_true.mp (List.all_eq_true.mp h r hr) q hq
  simp only [Bool.and_eq_true, decide_eq_true_eq, Bool.or_eq_true] at hrc hqc hrq
  omega

end CharSet

theorem blank_apart_alphabetic : blank.apart alphabetic = true := by decide +kernel

theorem blank_apart_numeric : blank.apart numeric = true := by decide +kernel

/-- White space is neither a letter nor a numeral. -/
theorem isAlphanumeric_of_isBlank {c : Char} (h : isBlank c = true) :
    isAlphanumeric c = false := by
  unfold isAlphanumeric
  split
  · -- the ASCII letters and digits are in the tables too
    have hl : isAsciiLetter c = true → alphabetic.contains c = true := by
      intro hc
      simp only [isAsciiLetter, Bool.or_eq_true, Bool.and_eq_true, decide_eq_true_eq,
        Char.le_def, UInt32.le_iff_toNat_le] at hc
      refine List.any_eq_true.mpr ?_
      rcases hc with hc | hc
      · exact ⟨(0x61, 0x7a), by decide, by simpa using hc⟩
      · exact ⟨(0x41, 0x5a), by decide, by simpa using hc⟩
    have hd : isDigit c = true → numeric.contains c = true := by
      intro hc
      simp only [isDigit, Bool.and_eq_true, decide_eq_true_eq, Char.le_def,
        UInt32.le_iff_toNat_le] at hc
      exact List.any_eq_true.mpr ⟨(0x30, 0x39), by decide, by simpa using hc⟩
    have ha := CharSet.contains_of_apart blank_apart_alphabetic h
    have hn := CharSet.contains_of_apart blank_apart_numeric h
    rw [Bool.or_eq_false_iff]
    exact ⟨Bool.eq_false_iff.mpr fun hc => by simp [hl hc] at ha,
      Bool.eq_false_iff.mpr fun hc => by simp [hd hc] at hn⟩
  · rw [Bool.or_eq_false_iff]
    exact ⟨CharSet.contains_of_apart blank_apart_alphabetic h,
      CharSet.contains_of_apart blank_apart_numeric h⟩

end Text

namespace Word

open Text

theorem isNameChar_of_isBlank {c : Char} (h : isBlank c = true) : isNameChar c = false := by
  have hu : c ≠ '_' := by
    rintro rfl
    exact absurd h (by decide)
  have hd : c ≠ '-' := by
    rintro rfl
    exact absurd h (by decide)
  simp [isNameChar, isAlphanumeric_of_isBlank h, hu, hd]

theorem not_isBlank_of_isNameChar {c : Char} (h : isNameChar c = true) : isBlank c = false :=
  Bool.eq_false_iff.mpr fun hb => by simp [isNameChar_of_isBlank hb] at h

/-- A digit may stand in a name. -/
theorem isNameChar_of_isDigit {c : Char} (h : isDigit c = true) : isNameChar c = true := by
  have hc : c.toNat < 0x80 := by
    simp only [isDigit, Bool.and_eq_true, decide_eq_true_eq, Char.le_def,
      UInt32.le_iff_toNat_le] at h
    exact Nat.lt_of_le_of_lt h.2 (by decide)
  simp [isNameChar, isAlphanumeric, hc, h]

/-- A digit ends no literal. -/
theorem isDelimiter_of_isDigit {c : Char} (h : isDigit c = true) : isDelimiter c = false := by
  have hblank := not_isBlank_of_isNameChar (isNameChar_of_isDigit h)
  have hmem : c ∉ delimiters := by
    intro hc
    simp only [delimiters, List.mem_cons, List.not_mem_nil, or_false] at hc
    rcases hc with rfl | rfl | rfl | rfl | rfl | rfl | rfl | rfl | rfl | rfl | rfl | rfl <;>
      exact absurd h (by decide)
  simp [isDelimiter, hblank, hmem]

theorem isDelimiter_of_isBlank {c : Char} (h : isBlank c = true) : isDelimiter c = true := by
  simp [isDelimiter, h]

theorem not_isBlank_of_not_isDelimiter {c : Char} (h : isDelimiter c = false) :
    isBlank c = false :=
  Bool.eq_false_iff.mpr fun hb => by simp [isDelimiter_of_isBlank hb] at h

end Word

end PathQuery
