import Overseer.Files.Change

/-!
# Reading texts

A text file is read by a path from a folder. The path is a text of its own, which may hold
what no path can hold.
-/

namespace Overseer

/-- Why no text can be read from a file. -/
inductive ReadFault
  | unreachable (fault : FileFault)
  /-- The path holds a NUL. -/
  | nulInPath
  | notText
  deriving DecidableEq

/-- The text of a fault, where it is not worded by the system. -/
def ReadFault.message? : ReadFault → Option String
  | unreachable _ => none
  | nulInPath => some "file name contained an unexpected NUL byte"
  | notText => some "stream did not contain valid UTF-8"

namespace FileTree

/-- The path that a text writes. -/
def pathOfText (path : String) : Except ReadFault Octets :=
  if path.contains '\x00' then .error .nulInPath else .ok (Octets.ofText path)

/-- Reads a text file by a path from a folder. -/
def readText (tree : FileTree) (folder : Nat) (path : String) : Except ReadFault String := do
  let octets ← pathOfText path
  match tree.read folder octets with
  | .error fault => .error (.unreachable fault)
  | .ok bytes =>
    match String.fromUTF8? bytes with
    | some text => .ok text
    | none => .error .notText

/-- The file at a path from a folder, which is made if it is missing. It is to be written
to, so that no folder will do. -/
def openText (tree : FileTree) (folder : Nat) (path : String) :
    Except ReadFault (FileTree × Nat) := do
  let octets ← pathOfText path
  match tree.ensureFile folder octets 0o644 with
  | .error fault => .error (.unreachable fault)
  | .ok (tree, node) =>
    match tree.kind node with
    | .folder .. => .error (.unreachable .isFolder)
    | .device .terminal => .error (.unreachable .noDevice)
    | _ => .ok (tree, node)

end FileTree

end Overseer
