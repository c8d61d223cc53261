import PathQuery.Host.Disk
import PathQuery.Settings.Basic

/-! # The settings file

Settings together with the directory that holds their file.  They are saved in this directory,
which is made if it is not there, and loaded from it.  The directory itself is not in the file:
loaded settings have the one they were loaded from.  Settings are saved whatever their output
format, but only loaded with one that exists. -/
namespace PathQuery

/-- Settings and the directory of their file. -/
structure SettingsFile where
  directory : String
  settings : Settings
  deriving DecidableEq, Repr

namespace SettingsFile

variable {m : Type → Type} [Monad m]

/-- Saves the settings in their directory. -/
def save (store : Store m) (c : SettingsFile) : m (Except Error Unit) := do
  if ← store.makeDirectories c.directory then
    if ← store.write (Settings.path c.directory) c.settings.text.toUTF8 then return .ok ()
  return .error .unreadable

/-- Loads the settings of a directory. -/
def load (host : Host m) (directory : String) : m (Except Error SettingsFile) := do
  let found ← host.file (Settings.path directory)
  return (Settings.load found).map (⟨directory, ·⟩)

end SettingsFile

end PathQuery
