import Overseer.Files.Basic

/-!
# Paths

A path leads from folder to folder, from the root or from a folder that is given.
`find` follows it to a node; `slot` follows it up to its last step, which need not
be there yet.
-/

namespace Overseer

structure Path where
  fromRoot : Bool
  /-- The names on the way; a path that ends in a slash ends with the step to the
  folder itself. -/
  steps : List Octets
  deriving DecidableEq

namespace Path

def ofText (text : Octets) : Path :=
  let parts := text.splitOn "/"
  let steps := parts.filter (· ≠ "")
  let steps := if parts.getLast? = some "" && !steps.isEmpty then steps ++ ["."] else steps
  ⟨text.startsWith "/", steps⟩

/-- The number of bytes that a path must stay below. -/
def lengthLimit : Nat := 4096

/-- The number of bytes that one step of a path may have. -/
def stepLimit : Nat := 255

/-- The number of links that may be followed on the way. -/
def linkLimit : Nat := 40

end Path

namespace FileTree

/-- Follows steps from a node. A link at the end is followed if asked for. `fuel`
bounds the steps, those of the links included. -/
def walk (tree : FileTree) (follow : Bool) :
    (fuel : Nat) → (links : Nat) → (place : Nat) → List Octets → Except FileFault Nat
  | 0, _, _, _ => .error .tooManyLinks
  | _ + 1, _, place, [] => .ok place
  | fuel + 1, links, place, step :: rest =>
    match tree.kind place with
    | .folder parent entries =>
      if step = "." then walk tree follow fuel links place rest
      else if step = ".." then walk tree follow fuel links parent rest
      else if Path.stepLimit < step.length then .error .nameTooLong
      else
        match entries.lookup step with
        | none => .error .missing
        | some id =>
          match tree.kind id with
          | .link target =>
            if rest.isEmpty && !follow then .ok id
            else if links = 0 then .error .tooManyLinks
            else
              let path := Path.ofText target
              walk tree follow fuel (links - 1) (if path.fromRoot then root else place)
                (path.steps ++ rest)
          | _ => walk tree follow fuel links id rest
    | _ => .error .notFolder

/-- The bound on the steps of one walk. -/
def walkFuel : Nat := Path.lengthLimit * (Path.linkLimit + 2)

def walkPath (tree : FileTree) (follow : Bool) (start : Nat) (path : Path) :
    Except FileFault Nat :=
  tree.walk follow walkFuel Path.linkLimit (if path.fromRoot then root else start) path.steps

/-- The node that a path leads to. -/
def find (tree : FileTree) (start : Nat) (path : Octets) (follow : Bool) :
    Except FileFault Nat :=
  if path.isEmpty then .error .missing
  else if Path.lengthLimit ≤ path.length then .error .nameTooLong
  else tree.walkPath follow start (Path.ofText path)

/-- A place in a folder that has a name, whether or not something is there. -/
structure Slot where
  folder : Nat
  name : Octets
  /-- What is there; a link is not followed. -/
  node : Option Nat
  /-- Whether the path says that the place is for a folder. -/
  forFolder : Bool

/-- The place that a path leads to. -/
def slot (tree : FileTree) (start : Nat) (path : Octets) : Except FileFault Slot := do
  if path.isEmpty then .error .missing
  if Path.lengthLimit ≤ path.length then .error .nameTooLong
  let parsed := Path.ofText path
  let forFolder := path.endsWith "/"
  let steps := if forFolder then parsed.steps.dropLast else parsed.steps
  let folder ← tree.walkPath true start { parsed with steps := steps.dropLast }
  match steps.getLast? with
  | none => .error .alreadyThere
  | some name =>
    if !tree.isFolder folder then .error .notFolder
    else if name = "." || name = ".." then .error .alreadyThere
    else if Path.stepLimit < name.length then .error .nameTooLong
    else return ⟨folder, name, tree.entry? folder name, forFolder⟩

/-- The place that a path leads to once a link at its end is followed, so that
something made there comes to stand where the link points. -/
def finalSlot (tree : FileTree) : (links : Nat) → (start : Nat) → (path : Octets) →
    Except FileFault Slot
  | 0, _, _ => .error .tooManyLinks
  | links + 1, start, path => do
    let slot ← tree.slot start path
    match slot.node.map tree.kind with
    | some (.link target) => finalSlot tree links slot.folder target
    | _ => return slot

end FileTree

end Overseer
