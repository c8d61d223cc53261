import PathQuery.Proofs.Json.ScalarText

/-! # Values are read back

The indented text of a value is read as this value, if the reader may go as deep as the value is
nested (`Json.readWithin?_indentedChars`).  The reader skips blanks wherever the writer puts a line
break, and what comes after a value never goes on with it: a comma, or a line break before a
bracket.

The equations of the readers leave the proofs in their results out (`Text.taken`), so that a text
can be rewritten in them. -/
namespace PathQuery
namespace Json

/-! ### Nesting -/

mutual

/-- How deep arrays and objects are nested in the value. -/
def depth : Json → Nat
  | array items => itemsDepth items + 1
  | object members => membersDepth members + 1
  | null | bool _ | number _ | string _ => 0

/-- How deep arrays and objects are nested in the items. -/
def itemsDepth : List Json → Nat
  | [] => 0
  | v :: vs => max (depth v) (itemsDepth vs)

/-- How deep arrays and objects are nested in the members. -/
def membersDepth : List (String × Json) → Nat
  | [] => 0
  | (_, v) :: ms => max (depth v) (membersDepth ms)

end

namespace Reader

open Text

/-! ### Blanks -/

/-- The text after the blanks it starts with. -/
def skipped (s : List Char) : List Char := (skipSpace s).1

theorem skipped_of_stops {s : List Char} (h : Stops isSpace s) : skipped s = s := by
  cases s with
  | nil => rfl
  | cons c s => exact List.dropWhile_cons_of_neg (by simp [h c rfl])

@[simp] theorem skipped_skipped (s : List Char) : skipped (skipped s) = skipped s := by
  refine skipped_of_stops ?_
  intro c hc
  have h := List.head?_dropWhile_not isSpace s
  rw [show s.dropWhile isSpace = skipped s from rfl, Option.mem_def.mp hc] at h
  simpa using h

theorem isSpace_of_mem_newLine {depth : Nat} {c : Char} (h : c ∈ newLine depth) :
    isSpace c = true := by
  rcases List.mem_cons.mp h with rfl | h
  · rfl
  · rw [List.eq_of_mem_replicate h]
    rfl

theorem skipped_newLine (depth : Nat) {s : List Char} (h : Stops isSpace s) :
    skipped (newLine depth ++ s) = s :=
  dropWhile_run (fun _ => isSpace_of_mem_newLine) h

theorem stops_newLine (depth : Nat) (s : List Char) : Stops continuesNumber (newLine depth ++ s) :=
  stops_cons (by decide) _

/-! ### The readers of arrays and objects -/

section Following

variable {α : Type} {closing : Char} {more : List Char → Option (List α × List Char)}

/-- An item with those that follow it: after a comma there are more, and else the closing
character has to come. -/
def following? (closing : Char) (more : List Char → Option (List α × List Char))
    (p : α × List Char) : Option (List α × List Char) :=
  match after? ',' (skipped p.2) with
  | some w => (more w).map fun q => (p.1 :: q.1, q.2)
  | none => (after? closing (skipped p.2)).map fun w => ([p.1], w)

theorem following?_comma (x : α) (w : List Char) :
    following? closing more (x, ',' :: w) = (more w).map fun q => (x :: q.1, q.2) := by
  have hskip : skipped (',' :: w) = ',' :: w := skipped_of_stops (stops_cons (by decide) w)
  rw [following?, hskip, after?_self]

theorem following?_newLine (hspace : isSpace closing = false) (hcomma : closing ≠ ',') (x : α)
    (depth : Nat) (r : List Char) :
    following? closing more (x, newLine depth ++ closing :: r) = some ([x], r) := by
  have hskip : skipped (newLine depth ++ closing :: r) = closing :: r :=
    skipped_newLine depth (stops_cons hspace r)
  rw [following?, hskip, after?_of_ne hcomma, after?_self]
  rfl

end Following

theorem taken_value?_bracket (room : Nat) (r : List Char) :
    taken (value? (room + 1) ('[' :: r)) =
      match after? ']' (skipped r) with
      | some u => some (array [], u)
      | none => (taken (items? room (skipped r))).map fun p => (array p.1, p.2) := by
  rw [value?.eq_def, skipped, after?]
  dsimp only
  cases afterChar? ']' (skipSpace r).1 with
  | some u => rfl
  | none =>
    cases items? room (skipSpace r).1 with
    | none => rfl
    | some p => rfl

theorem taken_value?_brace (room : Nat) (r : List Char) :
    taken (value? (room + 1) ('\x7b' :: r)) =
      match after? '\x7d' (skipped r) with
      | some u => some (object [], u)
      | none => (taken (members? room (skipped r))).map fun p => (object p.1, p.2) := by
  rw [value?.eq_def, skipped, after?]
  dsimp only
  cases afterChar? '\x7d' (skipSpace r).1 with
  | some u => rfl
  | none =>
    cases members? room (skipSpace r).1 with
    | none => rfl
    | some p => rfl

theorem taken_items?_eq (room : Nat) (s : List Char) :
    taken (items? room s) =
      (taken (value? room (skipped s))).bind (following? ']' fun w => taken (items? room w)) := by
  rw [items?.eq_def, skipped]
  dsimp only
  cases value? room (skipSpace s).1 with
  | none => rfl
  | some p =>
    simp only [taken_some, Option.bind_some, following?, skipped, after?]
    cases afterChar? ',' (skipSpace p.2.1).1 with
    | some w =>
      dsimp only [Option.map_some]
      cases items? room w.1 with
      | none => rfl
      | some q => rfl
    | none =>
      dsimp only [Option.map_none]
      cases afterChar? ']' (skipSpace p.2.1).1 with
      | none => rfl
      | some w => rfl

theorem taken_member?_eq (room : Nat) (s : List Char) :
    taken (member? room s) =
      (after? '"' s).bind fun k =>
        (taken (stringRest? k)).bind fun p =>
          (after? ':' (skipped p.2)).bind fun u =>
            (taken (value? room (skipped u))).map fun q => ((String.ofList p.1, q.1), q.2) := by
  rw [member?.eq_def, after?]
  cases afterChar? '"' s with
  | none => rfl
  | some k =>
    simp only [Option.map_some, Option.bind_some]
    cases stringRest? k.1 with
    | none => rfl
    | some p =>
      simp only [taken_some, Option.bind_some, skipped, after?]
      cases afterChar? ':' (skipSpace p.2.1).1 with
      | none => rfl
      | some u =>
        dsimp only [Option.map_some, Option.bind_some]
        cases value? room (skipSpace u.1).1 with
        | none => rfl
        | some q => rfl

theorem taken_members?_eq (room : Nat) (s : List Char) :
    taken (members? room s) =
      (taken (member? room (skipped s))).bind
        (following? '\x7d' fun w => taken (members? room w)) := by
  rw [members?.eq_def, skipped]
  dsimp only
  cases member? room (skipSpace s).1 with
  | none => rfl
  | some p =>
    simp only [taken_some, Option.bind_some, following?, skipped, after?]
    cases afterChar? ',' (skipSpace p.2.1).1 with
    | some w =>
      dsimp only [Option.map_some]
      cases members? room w.1 with
      | none => rfl
      | some q => rfl
    | none =>
      dsimp only [Option.map_none]
      cases afterChar? '\x7d' (skipSpace p.2.1).1 with
      | none => rfl
      | some w => rfl

/-- Blanks before the first item do not matter. -/
theorem taken_items?_skipped (room : Nat) (s : List Char) :
    taken (items? room (skipped s)) = taken (items? room s) := by
  rw [taken_items?_eq, skipped_skipped, ← taken_items?_eq]

/-- Blanks before the first member do not matter. -/
theorem taken_members?_skipped (room : Nat) (s : List Char) :
    taken (members? room (skipped s)) = taken (members? room s) := by
  rw [taken_members?_eq, skipped_skipped, ← taken_members?_eq]

/-! ### The indented text of a value -/

/-- A value's text starts with a character that is no blank and closes no array. -/
theorem exists_front_indentedChars (depth : Nat) (v : Json) :
    ∃ c s, indentedChars depth v = c :: s ∧ isSpace c = false ∧ c ≠ ']' := by
  cases v with
  | null => exact ⟨'n', _, rfl, by decide, by decide⟩
  | bool b => cases b <;> exact ⟨_, _, rfl, by decide, by decide⟩
  | number n =>
    obtain ⟨p, negative, hchars, -, -⟩ := exists_parts_chars n
    obtain ⟨c, s, hc, hfront⟩ := p.exists_front negative
    have hne := ne_of_front hfront
    refine ⟨c, s, hchars.trans hc, ?_, hne ']' (by decide) (by decide)⟩
    simp [isSpace, hne ' ' (by decide) (by decide), hne '\n' (by decide) (by decide),
      hne '\t' (by decide) (by decide), hne '\r' (by decide) (by decide)]
  | string s => exact ⟨'"', _, rfl, by decide, by decide⟩
  | array xs => cases xs <;> exact ⟨_, _, rfl, by decide, by decide⟩
  | object ms => cases ms <;> exact ⟨_, _, rfl, by decide, by decide⟩

theorem stops_indentedChars (depth : Nat) (v : Json) (r : List Char) :
    Stops isSpace (indentedChars depth v ++ r) := by
  obtain ⟨c, s, hc, hspace, -⟩ := exists_front_indentedChars depth v
  rw [hc]
  exact stops_cons hspace (s ++ r)

/-- The reader is at the first value after it has skipped the line break before it. -/
theorem skipped_line (depth : Nat) (v : Json) (r : List Char) :
    skipped (newLine depth ++ (indentedChars depth v ++ r)) = indentedChars depth v ++ r :=
  skipped_newLine depth (stops_indentedChars depth v r)

theorem skipped_keyLine (depth : Nat) (k : String) (r : List Char) :
    skipped (newLine depth ++ (stringChars k ++ r)) = stringChars k ++ r :=
  skipped_newLine depth (stops_cons (by decide) _)

theorem exists_indentedItems (depth : Nat) (x : Json) (xs : List Json) :
    ∃ s, indentedItems depth (x :: xs) = newLine depth ++ (indentedChars depth x ++ s) := by
  cases xs with
  | nil => exact ⟨[], by simp [indentedItems]⟩
  | cons y ys => exact ⟨_, by rw [indentedItems, List.append_assoc]⟩

theorem exists_indentedMembers (depth : Nat) (m : String × Json) (ms : List (String × Json)) :
    ∃ s, indentedMembers depth (m :: ms) = newLine depth ++ (stringChars m.1 ++ s) := by
  cases ms with
  | nil => exact ⟨_, by rw [indentedMembers, List.append_assoc]⟩
  | cons n ns => exact ⟨_, by rw [indentedMembers, List.append_assoc, List.append_assoc]⟩

/-- A member is read back if its value is. -/
theorem taken_member?_of_value {room depth : Nat} {v : Json} {r : List Char}
    (h : taken (value? room (indentedChars depth v ++ r)) = some (v, r)) (k : String) :
    taken (member? room (stringChars k ++ (':' :: ' ' :: indentedChars depth v ++ r))) =
      some ((k, v), r) := by
  have hkey : stringChars k ++ (':' :: ' ' :: indentedChars depth v ++ r) =
      '"' :: (k.toList.flatMap escapeChar ++
        '"' :: ':' :: ' ' :: (indentedChars depth v ++ r)) := by
    simp [stringChars]
  have hcolon : skipped (':' :: ' ' :: (indentedChars depth v ++ r)) =
      ':' :: ' ' :: (indentedChars depth v ++ r) := skipped_of_stops (stops_cons (by decide) _)
  have hblank : ∀ c ∈ [' '], isSpace c = true := List.forall_mem_singleton.mpr rfl
  have hvalue : skipped (' ' :: (indentedChars depth v ++ r)) = indentedChars depth v ++ r :=
    dropWhile_run hblank (stops_indentedChars depth v r)
  rw [taken_member?_eq, hkey, after?_self, Option.bind_some, taken_stringRest?_flatMap,
    Option.bind_some]
  dsimp only
  rw [hcolon, after?_self, Option.bind_some, hvalue, h, Option.map_some, String.ofList_toList]

mutual

/-- A value is read back from its indented text, with all that comes after it left over. -/
theorem taken_value?_indentedChars :
    ∀ (v : Json) (depth : Nat) {room : Nat}, v.depth ≤ room →
      ∀ {r : List Char}, Stops continuesNumber r →
        taken (value? room (indentedChars depth v ++ r)) = some (v, r)
  | null, _, room, _, r, hr => taken_value?_scalarChars room (v := null) rfl hr
  | bool b, _, room, _, r, hr => taken_value?_scalarChars room (v := bool b) rfl hr
  | number n, _, room, _, r, hr => taken_value?_scalarChars room (v := number n) rfl hr
  | string s, _, room, _, r, hr => taken_value?_scalarChars room (v := string s) rfl hr
  | array [], _, room + 1, _, r, _ => by
    have hclose : skipped (']' :: r) = ']' :: r := skipped_of_stops (stops_cons (by decide) r)
    show taken (value? (room + 1) ('[' :: ']' :: r)) = _
    rw [taken_value?_bracket, hclose, after?_self]
  | array (x :: xs), depth, room + 1, h, r, _ => by
    have hitems := taken_items?_indentedItems (x :: xs) (List.cons_ne_nil x xs) (depth + 1)
      (Nat.le_of_succ_le_succ h) depth r
    obtain ⟨s, hs⟩ := exists_indentedItems (depth + 1) x xs
    obtain ⟨c, t, hc, -, hclose⟩ := exists_front_indentedChars (depth + 1) x
    have htext : indentedChars depth (array (x :: xs)) ++ r =
        '[' :: (indentedItems (depth + 1) (x :: xs) ++ (newLine depth ++ ']' :: r)) := by
      simp [indentedChars]
    have hfront : after? ']'
        (skipped (indentedItems (depth + 1) (x :: xs) ++ (newLine depth ++ ']' :: r))) = none := by
      rw [hs, List.append_assoc, List.append_assoc, skipped_line, hc]
      exact after?_of_ne hclose _
    rw [htext, taken_value?_bracket, hfront, taken_items?_skipped, hitems]
    rfl
  | object [], _, room + 1, _, r, _ => by
    have hclose : skipped ('\x7d' :: r) = '\x7d' :: r :=
      skipped_of_stops (stops_cons (by decide) r)
    show taken (value? (room + 1) ('\x7b' :: '\x7d' :: r)) = _
    rw [taken_value?_brace, hclose, after?_self]
  | object (m :: ms), depth, room + 1, h, r, _ => by
    have hmembers := taken_members?_indentedMembers (m :: ms) (List.cons_ne_nil m ms) (depth + 1)
      (Nat.le_of_succ_le_succ h) depth r
    obtain ⟨s, hs⟩ := exists_indentedMembers (depth + 1) m ms
    have htext : indentedChars depth (object (m :: ms)) ++ r =
        '\x7b' :: (indentedMembers (depth + 1) (m :: ms) ++ (newLine depth ++ '\x7d' :: r)) := by
      simp [indentedChars]
    have hfront : after? '\x7d'
        (skipped (indentedMembers (depth + 1) (m :: ms) ++ (newLine depth ++ '\x7d' :: r))) =
          none := by
      rw [hs, List.append_assoc, List.append_assoc, skipped_keyLine]
      exact after?_of_ne (by decide) _
    rw [htext, taken_value?_brace, hfront, taken_members?_skipped, hmembers]
    rfl

/-- Items are read back from their lines, up to the closing bracket. -/
theorem taken_items?_indentedItems :
    ∀ (xs : List Json), xs ≠ [] → ∀ (depth : Nat) {room : Nat}, itemsDepth xs ≤ room →
      ∀ (outer : Nat) (r : List Char),
        taken (items? room (indentedItems depth xs ++ (newLine outer ++ ']' :: r))) = some (xs, r)
  | [], hne, _, _, _, _, _ => absurd rfl hne
  | [x], _, depth, room, h, outer, r => by
    have hx : x.depth ≤ room := le_trans (le_max_left ..) h
    have hread := taken_value?_indentedChars x depth hx (stops_newLine outer (']' :: r))
    rw [indentedItems, List.append_assoc, taken_items?_eq, skipped_line, hread, Option.bind_some,
      following?_newLine (by decide) (by decide)]
  | x :: y :: xs, _, depth, room, h, outer, r => by
    have hx : x.depth ≤ room := le_trans (le_max_left ..) h
    have hxs : itemsDepth (y :: xs) ≤ room := le_trans (le_max_right ..) h
    have hrest :=
      taken_items?_indentedItems (y :: xs) (List.cons_ne_nil y xs) depth hxs outer r
    have hread := taken_value?_indentedChars x depth hx
      (r := ',' :: (indentedItems depth (y :: xs) ++ (newLine outer ++ ']' :: r)))
      (stops_cons (by decide) _)
    rw [indentedItems, List.append_assoc, List.append_assoc, List.cons_append, taken_items?_eq,
      skipped_line, hread, Option.bind_some, following?_comma, hrest]
    rfl

/-- Members are read back from their lines, up to the closing brace. -/
theorem taken_members?_indentedMembers :
    ∀ (ms : List (String × Json)), ms ≠ [] → ∀ (depth : Nat) {room : Nat},
      membersDepth ms ≤ room → ∀ (outer : Nat) (r : List Char),
        taken (members? room (indentedMembers depth ms ++ (newLine outer ++ '\x7d' :: r))) =
          some (ms, r)
  | [], hne, _, _, _, _, _ => absurd rfl hne
  | [(k, v)], _, depth, room, h, outer, r => by
    have hv : v.depth ≤ room := le_trans (le_max_left ..) h
    have hread := taken_value?_indentedChars v depth hv (stops_newLine outer ('\x7d' :: r))
    rw [indentedMembers, List.append_assoc, List.append_assoc, taken_members?_eq, skipped_keyLine,
      taken_member?_of_value hread k, Option.bind_some,
      following?_newLine (by decide) (by decide)]
  | (k, v) :: m :: ms, _, depth, room, h, outer, r => by
    have hv : v.depth ≤ room := le_trans (le_max_left ..) h
    have hms : membersDepth (m :: ms) ≤ room := le_trans (le_max_right ..) h
    have hrest :=
      taken_members?_indentedMembers (m :: ms) (List.cons_ne_nil m ms) depth hms outer r
    have hread := taken_value?_indentedChars v depth hv
      (r := ',' :: (indentedMembers depth (m :: ms) ++ (newLine outer ++ '\x7d' :: r)))
      (stops_cons (by decide) _)
    have hmember : taken (member? room (stringChars k ++ (':' :: ' ' :: indentedChars depth v ++
        (',' :: indentedMembers depth (m :: ms) ++ (newLine outer ++ '\x7d' :: r))))) = _ :=
      taken_member?_of_value hread k
    rw [indentedMembers, List.append_assoc, List.append_assoc, List.append_assoc,
      taken_members?_eq, skipped_keyLine, hmember, Option.bind_some, following?_comma, hrest]
    rfl

end

end Reader

open Text Reader

theorem readWithin?_eq (room : Nat) (s : List Char) :
    readWithin? room s =
      (taken (value? room (skipped s))).bind fun p =>
        if p.2.all isSpace then some p.1 else none := by
  unfold readWithin? skipped
  cases value? room (skipSpace s).1 with
  | none => rfl
  | some p => rfl

/-- The indented text of a value and a line break are read as this value. -/
theorem readWithin?_indentedChars (v : Json) {room : Nat} (h : v.depth ≤ room) :
    readWithin? room (v.indentedChars 0 ++ ['\n']) = some v := by
  have hbreak : Stops continuesNumber ['\n'] := stops_cons (by decide) []
  rw [readWithin?_eq, skipped_of_stops (stops_indentedChars 0 v ['\n']),
    taken_value?_indentedChars v 0 h hbreak]
  rfl

end Json

end PathQuery
