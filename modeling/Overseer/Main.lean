import Overseer.Program.Basic
import Std.Time.DateTime.Timestamp

/-!
# The command line program

Carries `Program.execute` out with the files of the working folder: reads them,
executes, and brings the folder on disk up to date.
-/

open Overseer

/-- Reads the files of the working folder. -/
def readWorkingFolder : IO (List (String × ByteArray)) := do
  let mut files := []
  for entry in ← (← IO.currentDir).readDir do
    if !(← entry.path.isDir) then
      files := files ++ [(entry.fileName, ← IO.FS.readBinFile entry.path)]
  return files

/-- The files of the folder that a workshop works in. -/
def filesOf (workshop : Workshop) : List (String × ByteArray) :=
  (workshop.tree.entries workshop.folder).filterMap fun (name, node) => do
    let name ← Octets.toText? name
    let content ← (workshop.tree.content node).toOption
    return (name, content)

/-- Writes the files that differ, and removes those that are gone. -/
def writeWorkingFolder (before after : List (String × ByteArray)) : IO Unit := do
  for (name, content) in after do
    if before.lookup name != some content then IO.FS.writeBinFile name content
  for (name, _) in before do
    if (after.lookup name).isNone then IO.FS.removeFile name

def main (arguments : List String) : IO UInt32 := do
  let now ← Std.Time.Timestamp.now
  let level ← IO.getEnv LogLevel.environmentVariable
  let before ← readWorkingFolder
  let start : Instant := ⟨now.toNanosecondsSinceUnixEpoch.val⟩
  let (exit, workshop) :=
    Program.execute arguments level (Workshop.withFiles before (.flowing start))
  writeWorkingFolder before (filesOf workshop)
  (← IO.getStderr).putStr exit.notices
  (← IO.getStdout).putStr exit.output
  return exit.code
