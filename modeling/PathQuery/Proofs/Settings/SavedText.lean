import PathQuery.Proofs.Text.Trimming
import PathQuery.Proofs.Toml.DistinctKeys
import PathQuery.Proofs.Toml.StringText
import PathQuery.Settings.Basic

/-! # The text of settings is read back

The text of a settings file is three lines, each with a key and a string.  Whatever the strings
hold, a line is read as its key and its string (`Toml.Reader.lines?_line`), so the whole text is
read as a table of the three (`Settings.toml_read?_lines`), and this table gives the settings back
(`Settings.decode?_text`).  A file that was written by hand may lack the last line break
(`Settings.toml_read?_unended`). -/
namespace PathQuery
namespace Toml.Reader

open Text

/-! ### Keys without quotes -/

theorem ne_of_isKeyChar {c d : Char} (hc : isKeyChar c = true) (hd : isKeyChar d = false) :
    c ≠ d := by
  rintro rfl
  rw [hc] at hd
  cases hd

theorem skipSpace_of_isKeyChar {c : Char} (hc : isKeyChar c = true) (s : List Char) :
    skipSpace (c :: s) = ⟨c :: s, Nat.le_refl _⟩ :=
  Subtype.ext (by
    simp [skipSpace, skipWhile, ne_of_isKeyChar hc (d := ' ') (by decide),
      ne_of_isKeyChar hc (d := '\t') (by decide)])

/-- Between the lines nothing is skipped in front of a key. -/
theorem skipFiller_of_isKeyChar {c : Char} (hc : isKeyChar c = true) (s : List Char) :
    skipFiller (c :: s) = ⟨c :: s, Nat.le_refl _⟩ := by
  have hcomment : skipComment (c :: s) = ⟨c :: s, Nat.le_refl _⟩ := by
    simp [skipComment, afterChar?, NoLonger.self, ne_of_isKeyChar hc (d := '#') (by decide)]
  have hbreak : lineBreak? (c :: s) = none := by
    simp [lineBreak?, ne_of_isKeyChar hc (d := '\n') (by decide),
      ne_of_isKeyChar hc (d := '\r') (by decide)]
  rw [skipFiller, skipSpace_of_isKeyChar hc]
  dsimp only
  rw [hcomment]
  dsimp only
  rw [hbreak]
  rfl

theorem taken_part?_bare {c : Char} {k r : List Char} (hc : isKeyChar c = true)
    (hk : ∀ d ∈ k, isKeyChar d = true) (hr : Stops isKeyChar r) :
    taken (part? (c :: (k ++ r))) = some (c :: k, r) := by
  have hstring : keyString? (c :: (k ++ r)) = none := by
    rw [keyString?, if_neg]
    simp [ne_of_isKeyChar hc (d := '"') (by decide), ne_of_isKeyChar hc (d := '\'') (by decide)]
  rw [part?.eq_def, hstring]
  simp [hc, skipWhile, takeWhile_run hk hr, dropWhile_run hk hr]

/-- A key without quotes is read up to the equals sign. -/
theorem taken_key?_bare {c : Char} {k : List Char} (hc : isKeyChar c = true)
    (hk : ∀ d ∈ k, isKeyChar d = true) (r : List Char) :
    taken (key? (c :: (k ++ ' ' :: '=' :: r))) =
      some (⟨[], String.ofList (c :: k)⟩, '=' :: r) := by
  have hpart := taken_part?_bare (r := ' ' :: '=' :: r) hc hk (stops_cons (by decide) _)
  obtain ⟨_, hpart⟩ := taken_eq_some.mp hpart
  have hparts : taken (parts? (c :: (k ++ ' ' :: '=' :: r))) =
      some ([String.ofList (c :: k)], '=' :: r) := by
    rw [parts?, skipSpace_of_isKeyChar hc]
    dsimp only
    rw [hpart]
    rfl
  obtain ⟨_, hparts⟩ := taken_eq_some.mp hparts
  rw [key?, hparts]
  rfl

/-! ### Strings as values -/

/-- A string starts with a quote. -/
theorem exists_quote_stringChars (s : List Char) :
    ∃ q t, (q = '"' ∨ q = '\'') ∧ stringChars s = q :: t := by
  rcases stringChars_cases s with h | ⟨h, -⟩ | ⟨lines, -, h | ⟨h, -⟩⟩
  · exact ⟨_, _, .inl rfl, h⟩
  · exact ⟨_, _, .inr rfl, h⟩
  · exact ⟨_, _, .inl rfl, h⟩
  · exact ⟨_, _, .inr rfl, h⟩

theorem taken_value?_quote {q : Char} (hq : q = '"' ∨ q = '\'') (room : Nat) {s x r : List Char}
    (h : taken (string? (q :: s)) = some (x, r)) :
    taken (value? room (q :: s)) = some (.string (String.ofList x), r) := by
  have hbracket : afterChar? '[' (q :: s) = none := by
    rcases hq with rfl | rfl <;> rfl
  have hbrace : afterChar? '\x7b' (q :: s) = none := by
    rcases hq with rfl | rfl <;> rfl
  obtain ⟨_, hs⟩ := taken_eq_some.mp h
  rw [value?.eq_def, hbracket, hbrace]
  dsimp only
  rw [hs]
  rfl

/-- A key without quotes and a string are read as a pair. -/
theorem taken_pair?_bare {c : Char} {k : List Char} (hc : isKeyChar c = true)
    (hk : ∀ d ∈ k, isKeyChar d = true) (room : Nat) (s : List Char) {r : List Char}
    (hdouble : r.head? ≠ some '"') (hsingle : r.head? ≠ some '\'') :
    taken (pair? room (c :: (k ++ ' ' :: '=' :: ' ' :: (stringChars s ++ r)))) =
      some ((⟨[], String.ofList (c :: k)⟩, .string (String.ofList s)), r) := by
  obtain ⟨q, t, hq, ht⟩ := exists_quote_stringChars s
  have hvalue : taken (value? room (stringChars s ++ r)) =
      some (.string (String.ofList s), r) := by
    have hstring := taken_string?_stringChars s hdouble hsingle
    rw [ht] at hstring ⊢
    exact taken_value?_quote hq room hstring
  have hskip : skipSpace (' ' :: (stringChars s ++ r)) =
      ⟨stringChars s ++ r, Nat.le_of_lt (Nat.lt_succ_self _)⟩ := by
    refine Subtype.ext ?_
    rw [ht]
    rcases hq with rfl | rfl <;> rfl
  have hequals : afterChar? '=' ('=' :: ' ' :: (stringChars s ++ r)) =
      some ⟨' ' :: (stringChars s ++ r), Nat.lt_succ_self _⟩ := rfl
  obtain ⟨_, hkey⟩ := taken_eq_some.mp (taken_key?_bare hc hk (' ' :: (stringChars s ++ r)))
  obtain ⟨_, hvalue⟩ := taken_eq_some.mp hvalue
  rw [pair?, hkey]
  dsimp only
  rw [hequals]
  dsimp only
  rw [hskip]
  dsimp only
  rw [hvalue]
  rfl

/-! ### Lines -/

theorem lines?_nil : lines? [] = some [] := by
  rw [lines?, skipFiller]
  rfl

theorem taken_line?_bare {c : Char} {k : List Char} (hc : isKeyChar c = true)
    (hk : ∀ d ∈ k, isKeyChar d = true) (s : List Char) {r : List Char}
    (hdouble : r.head? ≠ some '"') (hsingle : r.head? ≠ some '\'') :
    taken (line? (c :: (k ++ ' ' :: '=' :: ' ' :: (stringChars s ++ r)))) =
      some (.pair ⟨[], String.ofList (c :: k)⟩ (.string (String.ofList s)), r) := by
  obtain ⟨_, hpair⟩ := taken_eq_some.mp (taken_pair?_bare hc hk depthLimit s hdouble hsingle)
  rw [line?]
  split
  · rename_i h
    exact absurd (Option.some.inj h) (ne_of_isKeyChar hc (by decide))
  · rw [hpair]
    rfl

/-- A line with a key without quotes and a string is read as a pair of them. -/
theorem lines?_line {c : Char} {k : List Char} (hc : isKeyChar c = true)
    (hk : ∀ d ∈ k, isKeyChar d = true) (s r : List Char) :
    lines? (c :: (k ++ ' ' :: '=' :: ' ' :: (stringChars s ++ '\n' :: r))) =
      (lines? r).map (.pair ⟨[], String.ofList (c :: k)⟩ (.string (String.ofList s)) :: ·) := by
  obtain ⟨_, hline⟩ :=
    taken_eq_some.mp (taken_line?_bare hc hk s (r := '\n' :: r) (by simp) (by simp))
  rw [lines?.eq_def, skipFiller_of_isKeyChar hc]
  dsimp only
  rw [hline]
  rfl

/-- At the end of the text a line needs no line break. -/
theorem lines?_lastLine {c : Char} {k : List Char} (hc : isKeyChar c = true)
    (hk : ∀ d ∈ k, isKeyChar d = true) (s : List Char) :
    lines? (c :: (k ++ ' ' :: '=' :: ' ' :: stringChars s)) =
      some [.pair ⟨[], String.ofList (c :: k)⟩ (.string (String.ofList s))] := by
  have hline := taken_line?_bare hc hk s (r := []) (by simp) (by simp)
  rw [List.append_nil] at hline
  obtain ⟨_, hline⟩ := taken_eq_some.mp hline
  have hend : endLine? [] = some ⟨[], Nat.le_refl _⟩ := rfl
  rw [lines?.eq_def, skipFiller_of_isKeyChar hc]
  dsimp only
  rw [hline]
  dsimp only
  rw [hend]
  dsimp only
  rw [lines?_nil]
  rfl

end Toml.Reader

namespace Toml

/-! ### Tables of pairs without dots -/

theorem addPairs?_of_nodup {ms : Growing} {ps : List (String × Toml)}
    (h : (ms.map Prod.fst ++ ps.map Prod.fst).Nodup) :
    addPairs? ms (ps.map fun p => (⟨[], p.1⟩, p.2)) =
      some (ms ++ ps.map fun p => (p.1, .value p.2)) := by
  induction ps generalizing ms with
  | nil => simp [addPairs?]
  | cons p ps ih =>
    obtain ⟨k, v⟩ := p
    have hnew : ms.lookup k = none := by
      refine List.lookup_eq_none_iff.mpr fun m hm => ?_
      have hne := (List.nodup_append.mp h).2.2 m.1 (List.mem_map_of_mem hm) k (by simp)
      simpa using hne.symm
    have hpair : addPair? ms (⟨[], k⟩, v) = some (ms ++ [(k, .value v)]) := by
      simp [addPair?, within?, hnew]
    have hrest : ((ms ++ [(k, Node.value v)]).map Prod.fst ++ ps.map Prod.fst).Nodup := by
      simpa using h
    have hfold := ih hrest
    rw [addPairs?] at hfold ⊢
    rw [List.map_cons, List.foldlM_cons, hpair]
    show List.foldlM addPair? _ _ = _
    rw [hfold]
    simp

theorem ofSections?_of_nodup {ps : List (String × Toml)} (h : (ps.map Prod.fst).Nodup) :
    ofSections? (ps.map fun p => (⟨[], p.1⟩, p.2)) [] = some (.table ps) := by
  have hpairs : addPairs? [] (ps.map fun p => (⟨[], p.1⟩, p.2)) =
      some (ps.map fun p => (p.1, .value p.2)) := addPairs?_of_nodup (by simpa using h)
  have hmembers : tomlMembers (ps.map fun p => (p.1, .value p.2)) = ps := by
    rw [tomlMembers_eq_map, List.map_map]
    exact List.map_id ps
  show ((addPairs? [] _).bind fun ms => some (table (tomlMembers ms))) = _
  rw [hpairs]
  show some (table (tomlMembers _)) = _
  rw [hmembers]

end Toml

namespace Settings

open Toml Toml.Reader

/-- A key that is written without quotes. -/
def IsBareKey (k : String) : Prop := ∃ c r, k.toList = c :: r ∧ ∀ d ∈ c :: r, isKeyChar d = true

theorem isBareKey_of_all {k : String} (hne : k.toList ≠ []) (h : k.toList.all isKeyChar = true) :
    IsBareKey k := by
  obtain ⟨c, r, hk⟩ := List.exists_cons_of_ne_nil hne
  exact ⟨c, r, hk, fun d hd => List.all_eq_true.mp h d (hk ▸ hd)⟩

/-- The keys of the settings file. -/
def keys : List String := ["composite_values", "output_format", "log_level"]

theorem isBareKey_of_mem_keys : ∀ k ∈ keys, IsBareKey k := by
  simp only [keys, List.forall_mem_cons]
  exact ⟨isBareKey_of_all (by decide +kernel) (by decide +kernel),
    isBareKey_of_all (by decide +kernel) (by decide +kernel),
    isBareKey_of_all (by decide +kernel) (by decide +kernel), by simp⟩

theorem lines?_line_append {k : String} (h : IsBareKey k) (v : String) (r : List Char) :
    lines? (line k v ++ r) = (lines? r).map (.pair ⟨[], k⟩ (.string v) :: ·) := by
  obtain ⟨c, s, hkey, hs⟩ := h
  obtain ⟨hc, hs⟩ := List.forall_mem_cons.mp hs
  have htext : line k v ++ r =
      c :: (s ++ ' ' :: '=' :: ' ' :: (stringChars v.toList ++ '\n' :: r)) := by
    simp [line, hkey]
  rw [htext, lines?_line hc hs, ← hkey, String.ofList_toList, String.ofList_toList]

theorem lines?_line_unended {k : String} (h : IsBareKey k) (v : String) :
    lines? (line k v).dropLast = some [.pair ⟨[], k⟩ (.string v)] := by
  obtain ⟨c, s, hkey, hs⟩ := h
  obtain ⟨hc, hs⟩ := List.forall_mem_cons.mp hs
  have htext : line k v =
      c :: (s ++ ' ' :: '=' :: ' ' :: stringChars v.toList) ++ ['\n'] := by
    simp [line, hkey]
  rw [htext, List.dropLast_concat, lines?_lastLine hc hs, ← hkey, String.ofList_toList,
    String.ofList_toList]

theorem lines?_lines {ps : List (String × String)} (h : ∀ p ∈ ps, IsBareKey p.1) :
    lines? (ps.flatMap fun p => line p.1 p.2) =
      some (ps.map fun p => .pair ⟨[], p.1⟩ (.string p.2)) := by
  induction ps with
  | nil => exact lines?_nil
  | cons p ps ih =>
    obtain ⟨hp, hps⟩ := List.forall_mem_cons.mp h
    rw [List.flatMap_cons, lines?_line_append hp, ih hps]
    rfl

/-- The line break after the last line may be missing. -/
theorem lines?_unended {ps : List (String × String)} (h : ∀ p ∈ ps, IsBareKey p.1) :
    lines? (ps.flatMap fun p => line p.1 p.2).dropLast =
      some (ps.map fun p => .pair ⟨[], p.1⟩ (.string p.2)) := by
  induction ps with
  | nil => exact lines?_nil
  | cons p ps ih =>
    obtain ⟨hp, hps⟩ := List.forall_mem_cons.mp h
    cases ps with
    | nil => rw [List.flatMap_singleton, lines?_line_unended hp, List.map_singleton]
    | cons q qs =>
      have hne : ((q :: qs).flatMap fun p => line p.1 p.2) ≠ [] := by simp [line]
      rw [List.flatMap_cons, List.dropLast_append_of_ne_nil hne, lines?_line_append hp, ih hps]
      rfl

/-- Lines start with no byte order mark. -/
theorem head?_lines_ne {ps : List (String × String)} (h : ∀ p ∈ ps, IsBareKey p.1) :
    (ps.flatMap fun p => line p.1 p.2).head? ≠ some '\ufeff' := by
  cases ps with
  | nil => simp
  | cons p ps =>
    obtain ⟨⟨c, k, hkey, hk⟩, -⟩ := List.forall_mem_cons.mp h
    have hc := ne_of_isKeyChar (List.forall_mem_cons.mp hk).1 (d := '\ufeff') (by decide)
    simp [line, hkey, hc]

/-- Lines that are read with keys that differ are the table of their keys and strings. -/
theorem toml_read?_of_lines? {ps : List (String × String)} (hnodup : (ps.map Prod.fst).Nodup)
    {s : String}
    (h : lines? (dropMark s.toList) = some (ps.map fun p => .pair ⟨[], p.1⟩ (.string p.2))) :
    Toml.read? s = some (.table (ps.map fun p => (p.1, .string p.2))) := by
  have hsections : sections (ps.map fun p => .pair ⟨[], p.1⟩ (.string p.2)) =
      ((ps.map fun p => (p.1, Toml.string p.2)).map fun p => (⟨[], p.1⟩, p.2), []) := by
    clear h hnodup
    induction ps with
    | nil => rfl
    | cons p ps ih => simp [sections, ih]
  have hkeys : ((ps.map fun p => (p.1, Toml.string p.2)).map Prod.fst).Nodup := by
    rwa [List.map_map]
  rw [Toml.read?, h, Option.bind_some, hsections]
  exact ofSections?_of_nodup hkeys

/-- The text of lines with keys that differ is read as the table of their keys and strings. -/
theorem toml_read?_lines {ps : List (String × String)} (hbare : ∀ p ∈ ps, IsBareKey p.1)
    (hnodup : (ps.map Prod.fst).Nodup) :
    Toml.read? (String.ofList (ps.flatMap fun p => line p.1 p.2)) =
      some (.table (ps.map fun p => (p.1, .string p.2))) := by
  refine toml_read?_of_lines? hnodup ?_
  rw [String.toList_ofList, dropMark, if_neg (head?_lines_ne hbare), lines?_lines hbare]

/-- A text of some of the settings, whose last line has no break, is read as the same table. -/
theorem toml_read?_unended (ps : List (String × String)) (hkeys : ∀ p ∈ ps, p.1 ∈ keys)
    (hnodup : (ps.map Prod.fst).Nodup) {s : String}
    (h : s.toList = (ps.flatMap fun p => line p.1 p.2).dropLast) :
    Toml.read? s = some (.table (ps.map fun p => (p.1, .string p.2))) := by
  have hbare : ∀ p ∈ ps, IsBareKey p.1 := fun p hp => isBareKey_of_mem_keys p.1 (hkeys p hp)
  have hmark : (ps.flatMap fun p => line p.1 p.2).dropLast.head? ≠ some '\ufeff' := by
    rw [List.head?_dropLast]
    split
    · exact head?_lines_ne hbare
    · simp
  refine toml_read?_of_lines? hnodup ?_
  rw [h, dropMark, if_neg hmark, lines?_unended hbare]

/-- Settings are read from such a text if its table has them, with a format that exists. -/
theorem read_unended (ps : List (String × String)) (hkeys : ∀ p ∈ ps, p.1 ∈ keys)
    (hnodup : (ps.map Prod.fst).Nodup) {t : String}
    (h : t.toList = (ps.flatMap fun p => line p.1 p.2).dropLast) {s : Settings}
    (hs : (ofToml? (.table (ps.map fun p => (p.1, .string p.2)))).filter
      (fun s => (Format.ofName? s.outputFormat).isSome) = some s) : read t = .ok s := by
  obtain ⟨hsettings, hformat⟩ := Option.filter_eq_some_iff.mp hs
  rw [read, decode?, toml_read?_unended ps hkeys hnodup h, Option.bind_some, hsettings]
  exact if_pos hformat

/-! ### The three lines of the settings -/

/-- The keys and strings of the settings file. -/
def pairs (s : Settings) : List (String × String) :=
  [("composite_values", s.composites.text), ("output_format", s.outputFormat),
    ("log_level", s.logFilter)]

theorem text_eq_pairs (s : Settings) :
    s.text = String.ofList (s.pairs.flatMap fun p => line p.1 p.2) := by
  simp [text, chars, pairs]

theorem isBareKey_of_mem_pairs (s : Settings) : ∀ p ∈ s.pairs, IsBareKey p.1 :=
  fun p hp => isBareKey_of_mem_keys p.1 (List.mem_map_of_mem (f := Prod.fst) hp)

/-- The text of settings is decoded as these settings, whatever their output format. -/
theorem decode?_text (s : Settings) : decode? s.text = some s := by
  have hnodup : (s.pairs.map Prod.fst).Nodup := by
    show ["composite_values", "output_format", "log_level"].Nodup
    decide
  have htable := toml_read?_lines (isBareKey_of_mem_pairs s) hnodup
  rw [decode?, text_eq_pairs, htable]
  show (Composites.ofToml? (.string s.composites.text)).bind _ = _
  rw [Composites.ofToml?, Composites.ofText?_text]
  rfl

/-- The settings have one of the formats that exist. -/
def HasFormat (s : Settings) : Prop := ∃ f : Format, s.outputFormat = f.name

theorem isSome_ofName?_iff (s : Settings) :
    (Format.ofName? s.outputFormat).isSome ↔ s.HasFormat := by
  constructor
  · intro h
    obtain ⟨f, hf⟩ := Option.isSome_iff_exists.mp h
    have hname := List.find?_some hf
    exact ⟨f, (beq_iff_eq.mp hname).symm⟩
  · rintro ⟨f, hf⟩
    rw [hf, Format.ofName?_name]
    rfl

/-- The text of settings with a format that exists is read as these settings. -/
theorem read_text_of_hasFormat {s : Settings} (h : s.HasFormat) : read s.text = .ok s := by
  rw [read, decode?_text]
  exact if_pos ((isSome_ofName?_iff s).mpr h)

/-- The text of other settings is refused for their format. -/
theorem read_text_of_not_hasFormat {s : Settings} (h : ¬ s.HasFormat) :
    read s.text = .error (.settings (.unknownOutputFormat s.outputFormat)) := by
  rw [read, decode?_text]
  exact if_neg (mt (isSome_ofName?_iff s).mp h)

/-- Whatever is found in place of the file, settings that are loaded have a format that
exists. -/
theorem hasFormat_of_load {found : Found} {s : Settings} (h : load found = .ok s) :
    s.HasFormat := by
  cases found with
  | missing =>
    obtain rfl := Except.ok.inj h
    exact ⟨.json, rfl⟩
  | unreadable => cases h
  | bytes b =>
    rw [load] at h
    split at h
    · cases h
    · rw [read] at h
      split at h
      · cases h
      · rename_i hdecode
        split at h
        · rename_i hsome
          obtain rfl := Except.ok.inj h
          exact (isSome_ofName?_iff _).mp hsome
        · cases h
    · simp

end Settings
end PathQuery
