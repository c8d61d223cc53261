import PathQuery.Text.Blank
import PathQuery.Text.Word

/-! # What a reader leaves over

A reader takes something off the front of a text and hands back the rest.  The rest
carries the proof that it is shorter, or at least no longer, than the text; so a
reader that calls itself on the rest ends. -/
namespace PathQuery.Text

/-- A text that is shorter than `s`. -/
abbrev Shorter (s : List Char) := { r : List Char // r.length < s.length }

/-- A text that is no longer than `s`. -/
abbrev NoLonger (s : List Char) := { r : List Char // r.length ≤ s.length }

namespace Shorter

variable {s r : List Char}

/-- The text after its first character. -/
def tail {c : Char} (s : List Char) : Shorter (c :: s) := ⟨s, Nat.lt_succ_self _⟩

/-- A rest, once a character is put before the text. -/
def cons {c : Char} (t : Shorter s) : Shorter (c :: s) := ⟨t.1, Nat.lt_succ_of_lt t.2⟩

/-- A rest as one that is no longer. -/
def noLonger (t : Shorter s) : NoLonger s := ⟨t.1, Nat.le_of_lt t.2⟩

/-- A rest of a shorter text. -/
def trans (t : Shorter r) (h : r.length < s.length) : Shorter s := ⟨t.1, Nat.lt_trans t.2 h⟩

/-- A rest of a text that is no longer. -/
def transLe (t : Shorter r) (h : r.length ≤ s.length) : Shorter s :=
  ⟨t.1, Nat.lt_of_lt_of_le t.2 h⟩

@[simp] theorem val_tail {c : Char} (s : List Char) : (tail s : Shorter (c :: s)).1 = s := rfl

@[simp] theorem val_cons {c : Char} (t : Shorter s) : (t.cons : Shorter (c :: s)).1 = t.1 := rfl

@[simp] theorem val_noLonger (t : Shorter s) : t.noLonger.1 = t.1 := rfl

@[simp] theorem val_trans (t : Shorter r) (h : r.length < s.length) : (t.trans h).1 = t.1 := rfl

@[simp] theorem val_transLe (t : Shorter r) (h : r.length ≤ s.length) : (t.transLe h).1 = t.1 :=
  rfl

end Shorter

namespace NoLonger

variable {s r : List Char}

/-- The whole text. -/
def self (s : List Char) : NoLonger s := ⟨s, Nat.le_refl _⟩

/-- The text without its first `n` characters. -/
def drop (n : Nat) (s : List Char) : NoLonger s := ⟨s.drop n, (List.drop_sublist n s).length_le⟩

/-- A rest, once a character is put before the text. -/
def cons {c : Char} (t : NoLonger s) : NoLonger (c :: s) := ⟨t.1, Nat.le_succ_of_le t.2⟩

/-- A rest, which is shorter once a character is put before the text. -/
def shorterCons {c : Char} (t : NoLonger s) : Shorter (c :: s) := ⟨t.1, Nat.lt_succ_of_le t.2⟩

/-- A rest of a shorter text. -/
def trans (t : NoLonger r) (h : r.length < s.length) : NoLonger s :=
  ⟨t.1, Nat.le_trans t.2 (Nat.le_of_lt h)⟩

/-- A rest of a text that is no longer. -/
def transLe (t : NoLonger r) (h : r.length ≤ s.length) : NoLonger s := ⟨t.1, Nat.le_trans t.2 h⟩

/-- A rest of a shorter text, which is shorter too. -/
def shorter (t : NoLonger r) (h : r.length < s.length) : Shorter s :=
  ⟨t.1, Nat.lt_of_le_of_lt t.2 h⟩

@[simp] theorem val_self (s : List Char) : (self s).1 = s := rfl

@[simp] theorem val_drop (n : Nat) (s : List Char) : (drop n s).1 = s.drop n := rfl

@[simp] theorem val_cons {c : Char} (t : NoLonger s) : (t.cons : NoLonger (c :: s)).1 = t.1 := rfl

@[simp] theorem val_shorterCons {c : Char} (t : NoLonger s) :
    (t.shorterCons : Shorter (c :: s)).1 = t.1 := rfl

@[simp] theorem val_trans (t : NoLonger r) (h : r.length < s.length) : (t.trans h).1 = t.1 := rfl

@[simp] theorem val_transLe (t : NoLonger r) (h : r.length ≤ s.length) : (t.transLe h).1 = t.1 :=
  rfl

@[simp] theorem val_shorter (t : NoLonger r) (h : r.length < s.length) : (t.shorter h).1 = t.1 :=
  rfl

end NoLonger

/-! ### Taking characters off -/

/-- The text after the characters it starts with that satisfy `p`. -/
def skipWhile (p : Char → Bool) (s : List Char) : NoLonger s :=
  ⟨s.dropWhile p, (List.dropWhile_sublist _).length_le⟩

/-- The text after `c`, if it starts with it. -/
def afterChar? (c : Char) : (s : List Char) → Option (Shorter s)
  | d :: r => if d = c then some (.tail r) else none
  | [] => none

/-- Whether the text starts with `c`, and the text after it. -/
def afterOptional (c : Char) (s : List Char) : Bool × NoLonger s :=
  match afterChar? c s with
  | some r => (true, r.noLonger)
  | none => (false, .self s)

/-- The text after one of the characters `cs`, if it starts with one. -/
def afterAny? (cs : List Char) : (s : List Char) → Option (Shorter s)
  | d :: r => if d ∈ cs then some (.tail r) else none
  | [] => none

/-- The text after `word`, if it starts with it. -/
def afterWord? : (word s : List Char) → Option (NoLonger s)
  | [], s => some (.self s)
  | _ :: _, [] => none
  | w :: ws, c :: s =>
    if w = c then (afterWord? ws s).map fun r => r.cons else none

/-- Digits taken off the front. -/
def takeDigits (s : List Char) : List Char × NoLonger s :=
  (s.takeWhile isDigit, skipWhile isDigit s)

/-- The value of a hexadecimal digit. -/
def hexDigit? (c : Char) : Option Nat :=
  if isDigit c then some (c.toNat - '0'.toNat)
  else if 'a' ≤ c ∧ c ≤ 'f' then some (c.toNat - 'a'.toNat + 10)
  else if 'A' ≤ c ∧ c ≤ 'F' then some (c.toNat - 'A'.toNat + 10)
  else none

/-- The character with a code point; surrogates are none. -/
def charOf? (n : Nat) : Option Char :=
  if n.isValidChar then some (Char.ofNat n) else none

end PathQuery.Text
