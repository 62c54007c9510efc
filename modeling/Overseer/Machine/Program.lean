import Overseer.Machine.Work

/-!
# Programs

A program is carried out with arguments, an environment and a folder to work in. It is
looked up by its name in the folders of a search path, and what its file holds says how
it is carried out.
-/

namespace Overseer

/-- What a program is carried out with. -/
structure Invocation where
  /-- The name of the program, as it was called. -/
  name : Octets
  arguments : List Octets
  environment : List (Octets × Octets)
  folder : Nat
  /-- The bits that the modes of new files are to be without. -/
  mask : Nat := 0o022

/-- How the programs of the system are carried out, given their names. -/
abbrev Launch := Octets → Invocation → Course

/-- What the file of a program says. -/
inductive Image
  /-- One of the programs of the system. -/
  | utility (name : Octets)
  /-- Lines for another program, with an argument for it. -/
  | script (interpreter : Octets) (argument : Option Octets)
  /-- Lines without a word about who is to read them. -/
  | plain

namespace Image

/-- What the file of a system program starts with. -/
def mark : Octets := "\x7fELF\x02\x01\x01\xff"

def ofContent (content : Octets) : Image :=
  if content.startsWith mark then
    .utility ((content.drop mark.length).takeWhile (· ≠ '\n')).toString
  else if content.startsWith "#!" then
    let isBlank (c : Char) : Bool := c = ' ' || c = '\t'
    let line := ((content.drop 2).takeWhile (· ≠ '\n')).toString.toList
    let (interpreter, rest) := (line.dropWhile isBlank).span fun c => !isBlank c
    let argument := ((rest.dropWhile isBlank).reverse.dropWhile isBlank).reverse
    .script (String.ofList interpreter)
      (if argument.isEmpty then none else some (String.ofList argument))
  else .plain

end Image

/-- The search path of a process that has none. -/
def standardSearchPath : Octets :=
  "/usr/local/sbin:/usr/local/bin:/usr/sbin:/usr/bin:/sbin:/bin"

/-- The file of a program, if it may be carried out. -/
def FileTree.program (tree : FileTree) (folder : Nat) (path : Octets) : Except FileFault Nat := do
  let id ← tree.find folder path true
  match tree.kind id with
  | .file _ => if tree.isExecutable id then return id else .error .denied
  | _ => .error .denied

/-- The path and the file of the program that a name stands for: itself a path if there is
a slash in it, or else the first that is found in the search path. -/
def FileTree.findProgram (tree : FileTree) (folder : Nat) (searchPath name : Octets) :
    Except FileFault (Octets × Nat) :=
  if name.contains '/' then (tree.program folder name).map (name, ·)
  else
    (searchPath.splitOn ":").foldl (fun found place =>
      match found with
      | .ok found => .ok found
      | .error fault =>
        let path := if place.isEmpty then name else place ++ "/" ++ name
        match tree.program folder path with
        | .ok id => .ok (path, id)
        | .error .denied => .error .denied
        | .error _ => .error fault) (.error .missing)

/-- The program that reads the lines of a plain file. -/
def lineReader : Octets := "sh"

/-- The number of files that may each say which program is to read the one before. -/
def interpreterLimit : Nat := 5

/-- The program of the system that a file comes to, and what it is carried out with. -/
def FileTree.resolve (tree : FileTree) (path : Octets) :
    (depth : Nat) → (file : Nat) → Invocation → Except FileFault (Octets × Invocation)
  | 0, _, _ => .error .tooManyLinks
  | depth + 1, file, invocation => do
    match Image.ofContent (Octets.ofBytes (← tree.content file)) with
    | .utility name => return (name, invocation)
    | .plain =>
      return (lineReader,
        { invocation with name := lineReader, arguments := path :: invocation.arguments })
    | .script interpreter argument =>
      let next ← tree.program invocation.folder interpreter
      resolve tree interpreter depth next
        { invocation with
          name := interpreter, arguments := argument.toList ++ path :: invocation.arguments }

namespace Work

/-- The streams that a process keeps when it becomes another program. -/
def isKept (descriptor : Nat) : Bool := descriptor < 10

/-- The time that a program takes to begin. -/
def launchTime : Span := .ofMillis 1

/-- Becomes a program of the system. -/
def become (launch : Launch) (name : Octets) (invocation : Invocation) : Work α := fun _ =>
  .look fun view =>
    .arrange (view.descriptors.filter fun entry => isKept entry.1) fun _ =>
      .sleep launchTime fun _ => launch name invocation

/-- Becomes the program that a name stands for; gives the fault if that cannot be. -/
def becomeNamed (launch : Launch) (searchPath : Octets) (invocation : Invocation) :
    Work FileFault := do
  let tree ← tree
  let resolved := do
    let (path, file) ← tree.findProgram invocation.folder searchPath invocation.name
    tree.resolve path interpreterLimit file invocation
  match resolved with
  | .ok (name, invocation) => become launch name invocation
  | .error fault => return fault

end Work

end Overseer
