import Overseer.Files.Path

/-!
# Changes to a file tree

Making, removing, renaming and writing files and folders. Each change either takes
place as a whole or is refused with a fault.
-/

namespace Overseer.FileTree

/-! ## Contents -/

/-- The content of a file that is there, or that stands for one. -/
def content (tree : FileTree) (id : Nat) : Except FileFault ByteArray :=
  match tree.kind id with
  | .file bytes => .ok bytes
  | .folder .. => .error .isFolder
  | .link _ => .error .tooManyLinks
  | .device .terminal => .error .noDevice
  | .device _ => .ok .empty

/-- Gives a file a content; on a device that does nothing. -/
def setContent (tree : FileTree) (id : Nat) (bytes : ByteArray) : FileTree :=
  match tree.kind id with
  | .file _ => tree.setKind id (.file bytes)
  | _ => tree

/-- The bytes of a file with some of them replaced from an offset on; a gap before
the offset is filled with zeros. -/
def overwritten (bytes : ByteArray) (offset : Nat) (piece : ByteArray) : ByteArray :=
  if offset = bytes.size then bytes ++ piece
  else
    let gap : ByteArray := ⟨Array.replicate (offset - bytes.size) 0⟩
    bytes.extract 0 offset ++ gap ++ piece ++ bytes.extract (offset + piece.size) bytes.size

def read (tree : FileTree) (start : Nat) (path : Octets) : Except FileFault ByteArray := do
  tree.content (← tree.find start path true)

/-! ## Making -/

/-- Puts a new node in a place, if nothing is there. -/
def make (tree : FileTree) (slot : Slot) (kind : NodeKind) (mode : Nat) :
    Except FileFault (FileTree × Nat) :=
  match slot.node with
  | some _ => .error .alreadyThere
  | none =>
    let (tree, id) := tree.add kind mode
    .ok (tree.bind slot.folder slot.name id, id)

/-- The file that a path leads to; it is made if it is missing. -/
def ensureFile (tree : FileTree) (start : Nat) (path : Octets) (mode : Nat) :
    Except FileFault (FileTree × Nat) :=
  match tree.find start path true with
  | .ok id => .ok (tree, id)
  | .error .missing => do
    let slot ← tree.finalSlot Path.linkLimit start path
    if slot.forFolder then .error .isFolder
    tree.make slot (.file .empty) mode
  | .error fault => .error fault

/-- Makes a file with a content, or replaces the content that it had. -/
def write (tree : FileTree) (start : Nat) (path : Octets) (bytes : ByteArray) (mode : Nat) :
    Except FileFault FileTree := do
  let (tree, id) ← tree.ensureFile start path mode
  if tree.isFolder id then .error .isFolder
  return tree.setContent id bytes

def makeFolder (tree : FileTree) (start : Nat) (path : Octets) (mode : Nat) :
    Except FileFault (FileTree × Nat) := do
  let slot ← tree.slot start path
  tree.make slot (.folder slot.folder []) mode

def makeLink (tree : FileTree) (start : Nat) (path target : Octets) : Except FileFault FileTree :=
  do
    let slot ← tree.slot start path
    if slot.forFolder then .error .missing
    return (← tree.make slot (.link target) 0o777).1

/-- Gives a node one more name. -/
def makeName (tree : FileTree) (start : Nat) (node : Nat) (path : Octets) :
    Except FileFault FileTree := do
  let slot ← tree.slot start path
  if tree.isFolder node then .error .notAllowed
  if slot.node.isSome then .error .alreadyThere
  if slot.forFolder then .error .missing
  return tree.bind slot.folder slot.name node

/-! ## Removing and renaming -/

def removeFile (tree : FileTree) (start : Nat) (path : Octets) : Except FileFault FileTree := do
  let slot ← tree.slot start path
  match slot.node with
  | none => .error .missing
  | some id =>
    if tree.isFolder id then .error .isFolder
    else if slot.forFolder then .error .notFolder
    else return tree.unbind slot.folder slot.name

/-- Removes a folder that has nothing in it. -/
def removeFolder (tree : FileTree) (start : Nat) (path : Octets) : Except FileFault FileTree := do
  let slot ← tree.slot start path
  match slot.node.map fun id => (id, tree.kind id) with
  | none => .error .missing
  | some (_, .folder _ []) => return tree.unbind slot.folder slot.name
  | some (_, .folder ..) => .error .notEmpty
  | some _ => .error .notFolder

/-- Whether a folder is another one or stands somewhere below it. -/
def isWithin (tree : FileTree) (outer : Nat) : (depth : Nat) → Nat → Bool
  | 0, _ => false
  | depth + 1, id =>
    id = outer ||
      match tree.kind id with
      | .folder parent _ => id ≠ parent && isWithin tree outer depth parent
      | _ => false

/-- Moves a node to another place. What is there gives way: a file to anything but a
folder, and a folder to another one if it is empty. -/
def rename (tree : FileTree) (start : Nat) (source target : Octets) :
    Except FileFault FileTree := do
  let old ← tree.slot start source
  let new ← tree.slot start target
  match old.node with
  | none => .error .missing
  | some id =>
    let isFolder := tree.isFolder id
    if old.forFolder && !isFolder then .error .notFolder
    if isFolder && tree.isWithin id tree.nodes.size new.folder then .error .badArgument
    match new.node with
    | some there =>
      if there = id then return tree
      if isFolder && !tree.isFolder there then .error .notFolder
      if !isFolder && tree.isFolder there then .error .isFolder
      if !(tree.entries there).isEmpty then .error .notEmpty
    | none => if new.forFolder && !isFolder then .error .notFolder
    let moved := (tree.unbind old.folder old.name).bind new.folder new.name id
    match moved.kind id with
    | .folder _ entries => return moved.set id { moved.node id with kind := .folder new.folder entries }
    | _ => return moved

/-! ## Modes and times -/

def setMode (tree : FileTree) (id mode : Nat) : FileTree :=
  tree.set id { tree.node id with mode }

def setTime (tree : FileTree) (id : Nat) (time : Span) : FileTree :=
  tree.set id { tree.node id with changedAt := time }

/-- Whether a file may be carried out. -/
def isExecutable (tree : FileTree) (id : Nat) : Bool := (tree.node id).mode &&& 0o111 ≠ 0

end Overseer.FileTree
