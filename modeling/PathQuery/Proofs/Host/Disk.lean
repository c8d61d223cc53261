import Mathlib.Data.List.Induction
import PathQuery.Host.Disk
import PathQuery.Proofs.Host.FileName

/-! # What a disk keeps

A directory of a path is made if no file is in the way (`Disk.makeDirectories_iff`), and then
a file can be written in it (`Disk.write_join`) and is found there (`Disk.find_join`).
`Disk.Takes` puts these conditions together: they are what it is for a directory to be writable
on a disk. -/
namespace PathQuery

namespace Path

open Text

/-! ### The path of a file in a directory -/

variable {directory file : String}

/-- A slash stands between the directory and the file; only the empty path has none. -/
theorem join_toList_cases (directory file : String) :
    (directory.toList = [] ∧ (join directory file).toList = file.toList) ∨
    (∃ d, directory.toList = d ++ ['/'] ∧ (join directory file).toList = d ++ '/' :: file.toList) ∨
    (directory.toList ≠ [] ∧
      (join directory file).toList = directory.toList ++ '/' :: file.toList) := by
  by_cases hempty : directory = ""
  · exact .inl (by simp [join, hempty])
  · by_cases hslash : directory.toList.getLast? = some '/'
    · obtain ⟨d, hd⟩ := List.getLast?_eq_some_iff.mp hslash
      exact .inr (.inl ⟨d, hd, by simp [join, hd]⟩)
    · have hnil : directory.toList ≠ [] := fun h => hempty (String.toList_inj.mp h)
      exact .inr (.inr ⟨hnil, by simp [join, hempty, hslash]⟩)

theorem join_leadsTo (h : IsName file.toList) (directory : String) :
    LeadsTo (join directory file) file.toList := by
  rcases join_toList_cases directory file with ⟨-, hjoin⟩ | ⟨d, -, hjoin⟩ | ⟨-, hjoin⟩
  · exact .plain hjoin h
  · exact .after hjoin h
  · exact .after hjoin h

theorem endsInName_join (h : IsName file.toList) (directory : String) :
    endsInName (join directory file) = true := by
  obtain ⟨ds, hds⟩ := (join_leadsTo h directory).exists_parts
  simp [endsInName, hds, h.not_isIdle, h.ne_points]

theorem steps_join (h : IsName file.toList) (directory : String) :
    steps (join directory file) = steps directory ++ [file.toList] := by
  have hfile : (split '/' file.toList).filter (fun part => !isIdle part) = [file.toList] := by
    rw [split_of_not_mem h.noSlash]
    exact List.filter_cons_of_pos (by rw [h.not_isIdle]; rfl)
  rcases join_toList_cases directory file with ⟨hempty, hjoin⟩ | ⟨d, hd, hjoin⟩ | ⟨-, hjoin⟩
  · rw [steps, steps, parts, parts, hjoin, hfile, hempty]
    rfl
  · -- the empty part after the slash leads nowhere
    rw [steps, steps, parts, parts, hjoin, hd, split_append_cons, split_append_cons,
      List.filter_append, List.filter_append, hfile]
    simp [split, isIdle]
  · rw [steps, steps, parts, parts, hjoin, split_append_cons, List.filter_append, hfile]

theorem isAbsolute_join (h : IsName file.toList) (directory : String) :
    isAbsolute (join directory file) = isAbsolute directory := by
  rcases join_toList_cases directory file with ⟨hempty, hjoin⟩ | ⟨d, hd, hjoin⟩ | ⟨hne, hjoin⟩
  · have hfile : file.toList.head? ≠ some '/' := fun hhead =>
      h.noSlash (List.mem_of_mem_head? hhead)
    simpa [isAbsolute, hjoin, hempty] using hfile
  · cases d <;> simp [isAbsolute, hjoin, hd]
  · obtain ⟨c, s, hs⟩ := List.exists_cons_of_ne_nil hne
    simp [isAbsolute, hjoin, hs]

end Path

namespace FullName

theorem enterAll_append (n : FullName) (s t : List (List Char)) :
    n.enterAll (s ++ t) = n.enterAll s ++ enterAll (s.foldl .enter n) t := by
  induction s generalizing n with
  | nil => rfl
  | cons step s ih => simp [enterAll, ih]

/-- The names that steps lead through without the last one. -/
theorem enterAll_dropLast (n : FullName) (s : List (List Char)) :
    (n.enterAll s).dropLast = n.enterAll s.dropLast := by
  rcases s.eq_nil_or_concat' with rfl | ⟨s, step, rfl⟩
  · rfl
  · simp [enterAll_append, enterAll]

theorem enter_eq_append {n : FullName} {step : List Char} (h : step ≠ ['.', '.']) :
    n.enter step = n ++ [step] := if_neg h

end FullName

namespace Disk

variable {d d' : Disk} {p directory file : String} {b : ByteArray}

/-! ### Paths -/

theorem start_congr (h : d'.directory = d.directory) (p : String) : d'.start p = d.start p := by
  rw [start, start, h]

theorem place_congr (h : d'.directory = d.directory) (p : String) : d'.place p = d.place p := by
  rw [place, place, start_congr h]

theorem start_there (d : Disk) (p : String) : d.node? (d.start p) = some .directory := by
  have hroot : ∀ n : FullName, d.node? n = some .directory → d.node? [] = some .directory := by
    intro n
    induction n using List.reverseRecOn with
    | nil => exact id
    | append_singleton n x ih =>
      intro h
      refine ih ?_
      have hparent := d.parent_there (n ++ [x]) (by rw [h]; rfl)
      rwa [List.dropLast_concat] at hparent
  rw [start]
  split
  · exact hroot _ d.directory_there
  · exact d.directory_there

/-! ### Directories -/

/-- There is a directory under the name, or the program may make one. -/
def Free (d : Disk) (n : FullName) : Prop :=
  d.node? n = some .directory ∨ d.node? n = none ∧ d.allows n

instance (n : FullName) : Decidable (d.Free n) := inferInstanceAs (Decidable (_ ∨ _))

/-- All that a path leads through is there. -/
structure Reaches (d : Disk) (p : String) : Prop where
  names : ∀ n ∈ d.names p, d.node? n = some .directory
  place : d.node? (d.place p) = some .directory

/-- The second disk is the first one with directories under some more names. -/
structure Extends (d : Disk) (ns : List FullName) (d' : Disk) : Prop where
  directory : d'.directory = d.directory
  allows : d'.allows = d.allows
  node? : ∀ n, d'.node? n = if n ∈ ns then some .directory else d.node? n

/-- A directory that is made does not stand in the way of others. -/
theorem Extends.free_iff {n : FullName} (h : Extends d [n] d') (hn : d.Free n) (k : FullName) :
    d'.Free k ↔ d.Free k := by
  by_cases hk : k = n
  · subst hk
    exact iff_of_true (.inl (by simp [h.node?])) hn
  · simp [Free, h.node?, h.allows, hk]

theorem makeDirectory_extends {n : FullName} (h : d.makeDirectory n = (true, d')) :
    Extends d [n] d' := by
  rw [makeDirectory] at h
  split at h
  · rename_i hthere
    obtain rfl := congrArg Prod.snd h
    -- one that is there already is found as it would be if it were made
    refine ⟨rfl, rfl, fun k => ?_⟩
    by_cases hk : k = n
    · simp [hk, hthere]
    · simp [hk]
  · split at h
    · obtain rfl := congrArg Prod.snd h
      exact ⟨rfl, rfl, fun k => by simp [put]⟩
    · cases h

/-- A directory can be made in one that is there, unless a file is in its place. -/
theorem makeDirectory_iff {n : FullName} (hn : d.node? n = some .directory)
    (step : List Char) : (d.makeDirectory (n.enter step)).1 = true ↔ d.Free (n.enter step) := by
  by_cases hthere : d.node? (n.enter step) = some .directory
  · exact iff_of_true (by rw [makeDirectory, dif_pos hthere]) (.inl hthere)
  · have hparent : (n.enter step).dropLast = n := by
      by_cases hstep : step = ['.', '.']
      · refine absurd ?_ hthere
        rw [FullName.enter, if_pos hstep]
        exact d.parent_there n (by rw [hn]; rfl)
      · rw [FullName.enter_eq_append hstep, List.dropLast_concat]
    rw [makeDirectory, dif_neg hthere, Free, or_iff_right hthere]
    -- where the directory goes is there, so only what is in its place counts
    by_cases h : d.node? (n.enter step) = none ∧ d.allows (n.enter step)
    · rw [dif_pos ⟨h.1, h.2, by rw [hparent, hn]⟩]
      exact iff_of_true rfl h
    · rw [dif_neg fun hall => h ⟨hall.1, hall.2.1⟩]
      exact iff_of_false Bool.false_ne_true h

theorem makeAll_extends {ns : List FullName} (h : d.makeAll ns = (true, d')) :
    Extends d ns d' := by
  induction ns generalizing d with
  | nil =>
    obtain rfl : d = d' := congrArg Prod.snd h
    exact ⟨rfl, rfl, fun k => by simp⟩
  | cons n ns ih =>
    rw [makeAll] at h
    split at h
    · rename_i hfirst
      have hfirst := makeDirectory_extends hfirst
      have hrest := ih h
      refine ⟨hrest.directory.trans hfirst.directory, hrest.allows.trans hfirst.allows,
        fun k => ?_⟩
      rw [hrest.node?, hfirst.node?]
      by_cases hk : k ∈ ns <;> simp [hk]
    · cases h

theorem makeAll_iff {n : FullName} (hn : d.node? n = some .directory)
    (steps : List (List Char)) :
    (d.makeAll (n.enterAll steps)).1 = true ↔ ∀ k ∈ n.enterAll steps, d.Free k := by
  induction steps generalizing d n with
  | nil => exact iff_of_true rfl (by simp [FullName.enterAll])
  | cons step steps ih =>
    have hfirst := makeDirectory_iff hn step
    rw [FullName.enterAll, List.forall_mem_cons, makeAll]
    split
    · rename_i d' hmade
      rw [hmade] at hfirst
      have hfree := hfirst.mp rfl
      have hext := makeDirectory_extends hmade
      rw [ih (by simp [hext.node?]), and_iff_right hfree]
      exact forall₂_congr fun k _ => hext.free_iff hfree k
    · rename_i hmade
      rw [hmade] at hfirst
      exact iff_of_false Bool.false_ne_true fun h => absurd (hfirst.mpr h.1) Bool.false_ne_true

/-- Of the names that a path leads through only the last one may have to be there. -/
theorem made_or_place {n : FullName} (h : n ∈ d.names p) : n ∈ d.made p ∨ n = d.place p := by
  rw [made]
  split
  · rw [names] at h
    rcases (Path.steps p).eq_nil_or_concat' with hs | ⟨s, step, hs⟩
    · rw [hs] at h
      cases h
    · rw [hs, FullName.enterAll_append, List.mem_append] at h
      rw [place, hs, List.dropLast_concat, List.foldl_append]
      exact h.imp id fun h => List.mem_singleton.mp h
  · exact .inl h

theorem makeDirectories_extends (h : d.makeDirectories p = (true, d')) :
    Extends d (d.made p) d' ∧ d'.Reaches p := by
  rw [makeDirectories] at h
  split at h
  · rename_i hmade
    obtain ⟨hplace, rfl⟩ := Prod.ext_iff.mp h
    have hext := makeAll_extends hmade
    have hplace := of_decide_eq_true hplace
    refine ⟨hext, fun n hn => ?_, by rwa [place_congr hext.directory]⟩
    rw [names, start_congr hext.directory] at hn
    rcases made_or_place hn with hn | rfl
    · rw [hext.node?, if_pos hn]
    · exact hplace
  · cases h

theorem makeDirectories_iff (d : Disk) (p : String) : (d.makeDirectories p).1 = true ↔
    (∀ n ∈ d.made p, d.Free n) ∧
      (d.place p ∈ d.made p ∨ d.node? (d.place p) = some .directory) := by
  have hall := makeAll_iff (d.start_there p)
    (if Path.endsInPoint p then (Path.steps p).dropLast else Path.steps p)
  rw [← made] at hall
  rw [makeDirectories, ← hall]
  split
  · rename_i d' hmade
    rw [hmade, and_iff_right rfl, isDirectory, decide_eq_true_iff, (makeAll_extends hmade).node?]
    by_cases h : d.place p ∈ d.made p <;> simp [h]
  · rename_i hmade
    rw [hmade]
    exact iff_of_false Bool.false_ne_true fun h => absurd h.1 Bool.false_ne_true

/-! ### Files -/

theorem start_join (h : Path.IsName file.toList) (d : Disk) (directory : String) :
    d.start (Path.join directory file) = d.start directory := by
  rw [start, start, Path.isAbsolute_join h]

theorem place_join (h : Path.IsName file.toList) (d : Disk) (directory : String) :
    d.place (Path.join directory file) = d.place directory ++ [file.toList] := by
  rw [place, start_join h, Path.steps_join h, List.foldl_append]
  exact FullName.enter_eq_append h.ne_points

theorem dropLast_names_join (h : Path.IsName file.toList) (d : Disk) (directory : String) :
    (d.names (Path.join directory file)).dropLast = d.names directory := by
  rw [names, start_join h, Path.steps_join h, FullName.enterAll_dropLast, List.dropLast_concat]
  rfl

theorem Reaches.all_names_join (hd : d.Reaches directory) (h : Path.IsName file.toList) :
    (d.names (Path.join directory file)).dropLast.all d.isDirectory = true := by
  rw [dropLast_names_join h, List.all_eq_true]
  exact fun n hn => decide_eq_true (hd.names n hn)

/-- A file can be written in a directory that is there, unless a directory is in its place. -/
theorem write_iff (hd : d.Reaches directory) (h : Path.IsName file.toList) (b : ByteArray) :
    (d.write (Path.join directory file) b).1 = true ↔
      d.allows (d.place directory ++ [file.toList]) ∧
        d.node? (d.place directory ++ [file.toList]) ≠ some .directory := by
  rw [write]
  split
  · rename_i hall
    rw [place_join h] at hall
    exact iff_of_true rfl ⟨hall.2.1, hall.2.2.2⟩
  · rename_i hall
    refine iff_of_false Bool.false_ne_true fun hfile => hall ?_
    rw [place_join h, List.dropLast_concat]
    exact ⟨⟨hd.all_names_join h, Path.endsInName_join h directory⟩, hfile.1, hd.place, hfile.2⟩

theorem node?_of_write (hwrite : d.write p b = (true, d')) :
    d'.directory = d.directory ∧ d.node? (d.place p) ≠ some .directory ∧
      ∀ n, d'.node? n = if n = d.place p then some (.file b) else d.node? n := by
  rw [write] at hwrite
  split at hwrite
  · rename_i hall
    obtain rfl := congrArg Prod.snd hwrite
    exact ⟨rfl, hall.2.2.2, fun _ => rfl⟩
  · cases hwrite

/-- What is written is found under the same path. -/
theorem find_of_write (hd : d.Reaches directory) (h : Path.IsName file.toList)
    (hwrite : d.write (Path.join directory file) b = (true, d')) :
    d'.find (Path.join directory file) = .bytes b := by
  obtain ⟨hdirectory, hfile, hnode⟩ := node?_of_write hwrite
  have hkept : ∀ n, d.node? n = some .directory → d'.node? n = some .directory := by
    intro n hn
    refine (hnode n).trans ((if_neg ?_).trans hn)
    rintro rfl
    exact hfile hn
  have hreaches : d'.Reaches directory := by
    refine ⟨fun n hn => hkept n (hd.names n ?_), hkept _ ?_⟩
    · rwa [names, start_congr hdirectory] at hn
    · rw [place_congr hdirectory]
      exact hd.place
  have hplace : d'.node? (d'.place (Path.join directory file)) = some (.file b) := by
    rw [place_congr hdirectory, hnode, if_pos rfl]
  rw [find, if_pos (hreaches.all_names_join h), hplace]
  exact if_pos (Path.endsInName_join h directory)

/-! ### Directories that are writable -/

/-- The program may write the file in the directory, and make the directory and what leads to
it where they are not there.  Neither may a file be in the way of a directory, nor
a directory in the place of the file. -/
structure Takes (d : Disk) (directory file : String) : Prop where
  free : ∀ n ∈ d.made directory, d.Free n
  reached : d.place directory ∈ d.made directory ∨
    d.node? (d.place directory) = some .directory
  allows : d.allows (d.place directory ++ [file.toList])
  not_made : d.place directory ++ [file.toList] ∉ d.made directory
  not_there : d.node? (d.place directory ++ [file.toList]) ≠ some .directory

instance : Decidable (d.Takes directory file) :=
  decidable_of_iff ((∀ n ∈ d.made directory, d.Free n) ∧
      (d.place directory ∈ d.made directory ∨ d.node? (d.place directory) = some .directory) ∧
      d.allows (d.place directory ++ [file.toList]) ∧
      d.place directory ++ [file.toList] ∉ d.made directory ∧
      d.node? (d.place directory ++ [file.toList]) ≠ some .directory)
    ⟨fun ⟨hfree, hreached, hallows, hmade, hthere⟩ => ⟨hfree, hreached, hallows, hmade, hthere⟩,
      fun h => ⟨h.free, h.reached, h.allows, h.not_made, h.not_there⟩⟩

/-- A directory is writable if it can be made and the file can be written in it after that. -/
theorem takes_iff (d : Disk) (directory : String) (h : Path.IsName file.toList) (b : ByteArray) :
    d.Takes directory file ↔ ∃ d' d'', d.makeDirectories directory = (true, d') ∧
      d'.write (Path.join directory file) b = (true, d'') := by
  have hmake := makeDirectories_iff d directory
  constructor
  · intro ht
    have hmade := hmake.mpr ⟨ht.free, ht.reached⟩
    obtain ⟨hext, hreaches⟩ := makeDirectories_extends (Prod.ext hmade rfl)
    have hplace := place_congr hext.directory directory
    have hwrite := (write_iff hreaches h b).mpr
      ⟨by rw [hplace, hext.allows]; exact ht.allows,
        by rw [hplace, hext.node?, if_neg ht.not_made]; exact ht.not_there⟩
    exact ⟨_, _, Prod.ext hmade rfl, Prod.ext hwrite rfl⟩
  · rintro ⟨d', d'', hmade, hwrite⟩
    obtain ⟨hext, hreaches⟩ := makeDirectories_extends hmade
    have hplace := place_congr hext.directory directory
    obtain ⟨hallows, hnot⟩ := (write_iff hreaches h b).mp (congrArg Prod.fst hwrite)
    rw [hplace, hext.allows] at hallows
    rw [hplace, hext.node?] at hnot
    obtain ⟨hfree, hreached⟩ := hmake.mp (congrArg Prod.fst hmade)
    have hnot_made : d.place directory ++ [file.toList] ∉ d.made directory := fun hmem =>
      hnot (if_pos hmem)
    rw [if_neg hnot_made] at hnot
    exact ⟨hfree, hreached, hallows, hnot_made, hnot⟩

/-- A directory with a point after it has to be there, unless it is made on the way. -/
example : ¬ blank.Takes "a/." "f" ∧ blank.Takes "a/b/../." "f" ∧ ¬ blank.Takes "f/.." "f" := by
  decide +kernel

/-- The file is found in a directory that is writable once it is written. -/
theorem find_of_makeDirectories {d'' : Disk} (h : Path.IsName file.toList)
    (hmade : d.makeDirectories directory = (true, d'))
    (hwrite : d'.write (Path.join directory file) b = (true, d'')) :
    d''.find (Path.join directory file) = .bytes b :=
  find_of_write (makeDirectories_extends hmade).2 h hwrite

/-! ### Requests -/

/-- A program that goes on by whether a request was met. -/
theorem run_request {α : Type} (request : StateM Disk Bool) (met unmet : StateM Disk α)
    (d : Disk) :
    (do if ← request then met else unmet : StateM Disk α).run d =
      if (request.run d).1 then met.run (request.run d).2 else unmet.run (request.run d).2 := by
  show (if (request.run d).1 then met else unmet).run (request.run d).2 = _
  split <;> rfl

theorem run_makeDirectories (host : Host Id) (d : Disk) (p : String) :
    ((store host).makeDirectories p).run d = d.makeDirectories p := rfl

theorem run_write (host : Host Id) (d : Disk) (p : String) (b : ByteArray) :
    ((store host).write p b).run d = d.write p b := rfl

end Disk

end PathQuery
