import PathQuery.Command.Start
import PathQuery.Host.Users

/-! # The program

Runs the command line on the system: the only module with effects. -/
namespace PathQuery

/-- The answers of the system that the program runs on. -/
def systemHost : Host IO where
  environment name := IO.getEnv name
  home := do
    try
      let status ← IO.FS.readFile "/proc/self/status"
      let users ← IO.FS.readFile "/etc/passwd"
      return ((Users.runner? status.toList).bind (Users.home? users.toList)).map String.ofList
    catch _ => return none
  file path := do
    -- a name that leads nowhere is no file, whatever stands in its way
    let found ←
      try
        let _ ← IO.FS.realPath path
        pure true
      catch _ => pure false
    if !found then return .missing
    try
      return .bytes (← IO.FS.readBinFile path)
    catch _ => return .unreadable
  input := do
    try
      return .bytes (← (← IO.getStdin).readBinToEnd)
    catch _ => return .unreadable

end PathQuery

open PathQuery

/-- Prints what a request leaves behind and gives its exit code. -/
def main (args : List String) : IO UInt32 := do
  let outcome ← (Request.read args).answer systemHost
  for e in outcome.events do
    IO.eprintln (e.level.name ++ " " ++ e.target)
  IO.print outcome.output
  match outcome.failure with
  | some e => IO.eprintln ("Error: " ++ e.message)
  | none => pure ()
  return outcome.code.toUInt32
