import Overseer.Text.Octets
import Overseer.Time.Basic

/-!
# File trees

A `FileTree` holds files, folders, links and devices. They are nodes with a
number each, and a folder gives names to the numbers of the nodes in it, so that a
node may have several names, or none while it is still in use.
-/

namespace Overseer

/-- Why a file cannot be used as asked for. -/
inductive FileFault
  | missing
  | notFolder
  | isFolder
  | alreadyThere
  | notEmpty
  | denied
  | notAllowed
  | nameTooLong
  | tooManyLinks
  | noDevice
  | busy
  | badArgument
  | noSpace
  | badDescriptor
  | brokenPipe
  | notExecutable
  deriving DecidableEq

/-- How the system words a fault. -/
def FileFault.text : FileFault → Octets
  | missing => "No such file or directory"
  | notFolder => "Not a directory"
  | isFolder => "Is a directory"
  | alreadyThere => "File exists"
  | notEmpty => "Directory not empty"
  | denied => "Permission denied"
  | notAllowed => "Operation not permitted"
  | nameTooLong => "File name too long"
  | tooManyLinks => "Too many levels of symbolic links"
  | noDevice => "No such device or address"
  | busy => "Device or resource busy"
  | badArgument => "Invalid argument"
  | noSpace => "No space left on device"
  | badDescriptor => "Bad file descriptor"
  | brokenPipe => "Broken pipe"
  | notExecutable => "Exec format error"

/-! ## Nodes -/

inductive Device
  /-- Always empty, whatever is written to it. -/
  | void
  /-- Gives zeros without end. -/
  | zeros
  /-- Gives zeros without end, and has no room for anything. -/
  | full
  /-- Gives bytes that nobody can foretell. -/
  | noise
  /-- Stands for a terminal, which is not there. -/
  | terminal
  /-- Stands for what a process has open under a number. -/
  | descriptor (number : Nat)
  deriving DecidableEq, Inhabited

inductive NodeKind
  | file (content : ByteArray)
  | folder (parent : Nat) (entries : List (Octets × Nat))
  | link (target : Octets)
  | device (device : Device)
  deriving Inhabited

structure Node where
  kind : NodeKind
  /-- What may be done with the node, as nine bits. -/
  mode : Nat
  changedAt : Span := .zero
  deriving Inhabited

structure FileTree where
  nodes : Array Node := #[⟨.folder 0 [], 0o755, .zero⟩]
  /-- The time that changes are marked with. -/
  now : Span := .zero
  deriving Inhabited

namespace FileTree

/-- The number of the folder that holds all others. -/
def root : Nat := 0

def node (tree : FileTree) (id : Nat) : Node := tree.nodes.getD id default

def kind (tree : FileTree) (id : Nat) : NodeKind := (tree.node id).kind

def set (tree : FileTree) (id : Nat) (node : Node) : FileTree :=
  { tree with nodes := tree.nodes.setIfInBounds id node }

/-- Gives a node a new content, as of now. -/
def setKind (tree : FileTree) (id : Nat) (kind : NodeKind) : FileTree :=
  { tree with
    nodes := tree.nodes.modify id fun node => { node with kind, changedAt := tree.now } }

/-- Adds a node that has no name yet, and gives its number. -/
def add (tree : FileTree) (kind : NodeKind) (mode : Nat) : FileTree × Nat :=
  ({ tree with nodes := tree.nodes.push ⟨kind, mode, tree.now⟩ }, tree.nodes.size)

def isFolder (tree : FileTree) (id : Nat) : Bool :=
  match tree.kind id with
  | .folder .. => true
  | _ => false

/-! ## Entries -/

/-- The names in a folder, with the nodes that they stand for. -/
def entries (tree : FileTree) (folder : Nat) : List (Octets × Nat) :=
  match tree.kind folder with
  | .folder _ entries => entries
  | _ => []

/-- The names in a folder in the order of their bytes. -/
def names (tree : FileTree) (folder : Nat) : List Octets :=
  ((tree.entries folder).map (·.1)).mergeSort fun a b => !Octets.isBefore b a

def entry? (tree : FileTree) (folder : Nat) (name : Octets) : Option Nat :=
  (tree.entries folder).lookup name

/-- Changes the names in a folder. -/
def changeEntries (tree : FileTree) (folder : Nat)
    (change : List (Octets × Nat) → List (Octets × Nat)) : FileTree :=
  match tree.kind folder with
  | .folder parent entries => tree.setKind folder (.folder parent (change entries))
  | _ => tree

/-- Gives a node a name, in the place of what had it before. -/
def bind (tree : FileTree) (folder : Nat) (name : Octets) (id : Nat) : FileTree :=
  tree.changeEntries folder fun entries =>
    if (entries.lookup name).isSome then
      entries.map fun entry => if entry.1 = name then (name, id) else entry
    else entries ++ [(name, id)]

def unbind (tree : FileTree) (folder : Nat) (name : Octets) : FileTree :=
  tree.changeEntries folder fun entries => entries.filter (·.1 ≠ name)

/-- How many names a node has. -/
def nameCount (tree : FileTree) (id : Nat) : Nat :=
  tree.nodes.foldl (fun count node =>
    match node.kind with
    | .folder _ entries => count + entries.countP (·.2 = id)
    | _ => count) 0

/-- The path of a folder from the root, given at most so many folders above it. -/
def pathWithin (tree : FileTree) : (depth : Nat) → Nat → List Octets
  | 0, _ => []
  | depth + 1, id =>
    match tree.kind id with
    | .folder parent _ =>
      match (tree.entries parent).find? fun entry => entry.2 = id && parent ≠ id with
      | some (name, _) => pathWithin tree depth parent ++ [name]
      | none => []
    | _ => []

/-- The path of a folder from the root. -/
def pathOf (tree : FileTree) (id : Nat) : Octets :=
  "/" ++ "/".intercalate (tree.pathWithin tree.nodes.size id)

end FileTree

end Overseer
