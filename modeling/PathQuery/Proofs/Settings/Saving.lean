import PathQuery.Proofs.Command.Output
import PathQuery.Proofs.Host.Disk
import PathQuery.Proofs.Settings.SavedText
import PathQuery.Settings.File

/-! # Settings survive on disk

Settings that are saved in a writable directory are loaded from it again, directory and all, if
their output format exists (`SettingsFile.load_saved`); otherwise they are refused for it.  The
text is the matter of `Settings.read_text_of_hasFormat`, the file that of
`Disk.find_of_makeDirectories`. -/
namespace PathQuery

namespace Settings

theorem isName_config : Path.IsName "config.toml".toList := by
  constructor <;> decide +kernel

/-- Settings that were found as they were written are loaded, unless their format is refused. -/
theorem load_text (s : Settings) : load (.bytes s.text.toUTF8) = read s.text := by
  rw [load, Found.text_toUTF8]
  simp

theorem hasFormat_iff_mem (s : Settings) :
    s.HasFormat ↔ s.outputFormat ∈ ["json", "values", "count"] := by
  constructor
  · rintro ⟨f, hf⟩
    rw [hf]
    cases f <;> simp [Format.name]
  · intro h
    simp only [List.mem_cons, List.not_mem_nil, or_false] at h
    rcases h with h | h | h
    · exact ⟨.json, h⟩
    · exact ⟨.values, h⟩
    · exact ⟨.count, h⟩

/-- The message of a format that is refused names it, and the formats that exist. -/
theorem message_unknownOutputFormat (name : String) :
    (Error.settings (.unknownOutputFormat name)).message =
      "Configuration error: Unknown output_format '" ++ name ++
        "' (expected one of: json, values, count)" := by
  have hmessage : (Error.settings (.unknownOutputFormat name)).message =
      "Configuration error: " ++ ("Unknown output_format '" ++ name ++ "'" ++ formatChoices) := rfl
  have hchoices : formatChoices = " (expected one of: json, values, count)" := rfl
  rw [hmessage, hchoices]
  exact String.toList_inj.mp (by simp)

end Settings

namespace SettingsFile

variable {host : Host Id} {d : Disk} {c : SettingsFile}

/-! ### Saving on a disk -/

/-- Saving makes the directory, and writes the file if that was done. -/
theorem run_save (host : Host Id) (d : Disk) (c : SettingsFile) :
    (c.save (Disk.store host)).run d =
      let made := d.makeDirectories c.directory
      let written := made.2.write (Settings.path c.directory) c.settings.text.toUTF8
      if made.1 then if written.1 then (.ok (), written.2) else (.error .unreadable, written.2)
      else (.error .unreadable, made.2) := by
  rw [save, Disk.run_request, Disk.run_makeDirectories, Disk.run_request, Disk.run_write]
  rfl

/-- In a directory that is writable, settings are saved and their text is found. -/
theorem save_of_takes (host : Host Id) (hd : d.Takes c.directory "config.toml") :
    ∃ d', (c.save (Disk.store host)).run d = (.ok (), d') ∧
      d'.find (Settings.path c.directory) = .bytes c.settings.text.toUTF8 := by
  obtain ⟨d₁, d₂, hmade, hwrite⟩ := (d.takes_iff c.directory Settings.isName_config
    c.settings.text.toUTF8).mp hd
  have hwritten : d₁.write (Settings.path c.directory) c.settings.text.toUTF8 = (true, d₂) := hwrite
  refine ⟨d₂, ?_, Disk.find_of_makeDirectories Settings.isName_config hmade hwrite⟩
  rw [run_save, hmade]
  dsimp only
  rw [hwritten]
  rfl

/-- Settings are not saved in any other directory. -/
theorem takes_of_save (h : ((c.save (Disk.store host)).run d).1 = .ok ()) :
    d.Takes c.directory "config.toml" := by
  rw [run_save] at h
  dsimp only at h
  split at h
  · rename_i hmade
    split at h
    · rename_i hwritten
      exact (d.takes_iff c.directory Settings.isName_config c.settings.text.toUTF8).mpr
        ⟨_, _, Prod.ext hmade rfl, Prod.ext hwritten rfl⟩
    · cases h
  · cases h

theorem run_load (host : Host Id) (d : Disk) (directory : String) :
    (load (Disk.store host).toHost directory).run d =
      ((Settings.load (d.find (Settings.path directory))).map (⟨directory, ·⟩), d) := rfl

/-! ### Loading what was saved -/

/-- **Settings survive on disk.**  Settings of any kind are saved in just the directories that
are writable, and after that they are loaded as they were, if their output format exists, and
are refused for it otherwise.  So all settings that are loaded from anywhere have a format that
exists, and the directory they were loaded from. -/
theorem load_saved :
    (∀ (host : Host Id) (d : Disk) (c : SettingsFile),
      ((c.save (Disk.store host)).run d).1 = .ok () ↔ d.Takes c.directory "config.toml") ∧
    (∀ (host : Host Id) (d : Disk) (c : SettingsFile), d.Takes c.directory "config.toml" →
      ∃ d', (c.save (Disk.store host)).run d = (.ok (), d') ∧
        (c.settings.outputFormat ∈ ["json", "values", "count"] →
          (load (Disk.store host).toHost c.directory).run d' = (.ok c, d')) ∧
        (c.settings.outputFormat ∉ ["json", "values", "count"] →
          ∃ f : SettingsFault, f = .unknownOutputFormat c.settings.outputFormat ∧
            (load (Disk.store host).toHost c.directory).run d' = (.error (.settings f), d') ∧
            (Error.settings f).message = "Configuration error: Unknown output_format '" ++
              c.settings.outputFormat ++ "' (expected one of: json, values, count)")) ∧
    (∀ (host : Host Id) (directory : String) (c : SettingsFile),
      load host directory = .ok c →
        c.directory = directory ∧ c.settings.outputFormat ∈ ["json", "values", "count"]) := by
  refine ⟨fun host d c => ⟨takes_of_save, fun hd => ?_⟩, fun host d c hd => ?_,
    fun host directory c h => ?_⟩
  · obtain ⟨d', hsave, -⟩ := save_of_takes host hd
    rw [hsave]
  · obtain ⟨d', hsave, hfind⟩ := save_of_takes host hd
    refine ⟨d', hsave, fun hformat => ?_, fun hformat => ?_⟩
    · have hread := Settings.read_text_of_hasFormat (c.settings.hasFormat_iff_mem.mpr hformat)
      rw [run_load, hfind, Settings.load_text, hread]
      rfl
    · have hread := Settings.read_text_of_not_hasFormat
        (mt c.settings.hasFormat_iff_mem.mp hformat)
      refine ⟨_, rfl, ?_, Settings.message_unknownOutputFormat _⟩
      rw [run_load, hfind, Settings.load_text, hread]
      rfl
  · -- the format has been checked, and the directory is the one that was asked for
    have hmap : (Settings.load (host.file (Settings.path directory))).map
        (SettingsFile.mk directory) = .ok c := h
    cases hload : Settings.load (host.file (Settings.path directory)) with
    | error e =>
      rw [hload] at hmap
      cases hmap
    | ok s =>
      rw [hload] at hmap
      obtain rfl := Except.ok.inj hmap
      exact ⟨rfl, s.hasFormat_iff_mem.mp (Settings.hasFormat_of_load hload)⟩

/-- Settings in a directory inside another, with quotes of both kinds, backslashes, line
breaks and control characters in the log filter. -/
def quotedSettings (format : String) : SettingsFile :=
  ⟨"state/./parsr/", .skip, format, "it's \"so\", \\ and\n\t'''so''' \r\n\x01\x7f"⟩

/-- A system without environment and files. -/
def bareHost : Host Id := ⟨fun _ => none, none, fun _ => .missing, .missing⟩

theorem load_saved_quoted :
    Disk.blank.Takes "state/./parsr/" "config.toml" ∧
      (∃ d', ((quotedSettings "values").save (Disk.store bareHost)).run Disk.blank =
          (.ok (), d') ∧
        (load (Disk.store bareHost).toHost "state/./parsr/").run d' =
          (.ok (quotedSettings "values"), d')) ∧
      (∃ d' f, ((quotedSettings "'''\"\n").save (Disk.store bareHost)).run Disk.blank =
          (.ok (), d') ∧
        (load (Disk.store bareHost).toHost "state/./parsr/").run d' =
          (.error (.settings f), d') ∧
        (Error.settings f).message = "Configuration error: Unknown output_format '" ++ "'''\"\n" ++
          "' (expected one of: json, values, count)") ∧
      load bareHost "here" = .ok ⟨"here", {}⟩ ∧
      (⟨"here", {}⟩ : SettingsFile).settings.outputFormat ∈ ["json", "values", "count"] := by
  have htakes : Disk.blank.Takes "state/./parsr/" "config.toml" := by decide +kernel
  obtain ⟨d₁, hsave₁, hknown, -⟩ :=
    load_saved.2.1 bareHost Disk.blank (quotedSettings "values") htakes
  obtain ⟨d₂, hsave₂, -, hunknown⟩ :=
    load_saved.2.1 bareHost Disk.blank (quotedSettings "'''\"\n") htakes
  obtain ⟨f, -, hload, hmessage⟩ := hunknown (by decide +kernel)
  have hbare : load bareHost "here" = .ok ⟨"here", {}⟩ := rfl
  exact ⟨htakes, ⟨d₁, hsave₁, hknown (by decide +kernel)⟩, ⟨d₂, f, hsave₂, hload, hmessage⟩, hbare,
    (load_saved.2.2 bareHost "here" _ hbare).2⟩

end SettingsFile

end PathQuery
