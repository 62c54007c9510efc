import Overseer.Tools.Folders

/-!
# Tools that copy and move files
-/

namespace Overseer.Tool

/-! ## Sources and targets -/

/-- Whether a path leads to a folder. -/
def isFolderAt (tree : FileTree) (folder : Nat) (path : Octets) : Bool :=
  match tree.find folder path true with
  | .ok node => tree.isFolder node
  | .error _ => false

/-- The sources of a copy or move, each with the path that it goes to. -/
def copyPairs (invocation : Invocation) (parsed : Parsed) : Work (List (Octets × Octets)) := do
  let tree ← Work.tree
  let (sources, target) ←
    match parsed.operands, parsed.value? 't' with
    | [], _ => misuse invocation 1 "missing file operand"
    | sources, some folder => pure (sources, folder)
    | [source], none => misuse invocation 1 ("missing destination file operand after " ++ quote source)
    | operands, none => pure (operands.dropLast, operands.getLastD "")
  let intoFolder := isFolderAt tree invocation.folder target && !parsed.has 'T'
  if !intoFolder && (1 < sources.length || parsed.has 't') then
    let fault :=
      match tree.find invocation.folder target true with
      | .ok _ => FileFault.notFolder
      | .error fault => fault
    misuse' invocation ("target " ++ quote target ++ ": " ++ fault.text)
  return sources.map fun source =>
    (source, if intoFolder then joinPath target (lastStep source) else target)
where
  misuse' (invocation : Invocation) (message : Octets) : Work Unit := fail invocation 1 message

/-! ## Copying -/

/-- How copies are made. -/
structure CopyStyle where
  recurses : Bool
  forces : Bool
  keepsExisting : Bool
  keepsLinks : Bool
  keepsTimes : Bool
  makesLinks : Bool
  makesNames : Bool
  mask : Nat

/-- Copies the content of a node to a path; a copy of a folder holds copies of what is in it.
`depth` bounds the levels. -/
def copyNode (style : CopyStyle) (folder : Nat) : (depth : Nat) → FileTree → (node : Nat) →
    (path : Octets) → Except FileFault FileTree
  | 0, _, _, _ => .error .tooManyLinks
  | depth + 1, tree, node, path => do
    let mode := (tree.node node).mode
    let time := (tree.node node).changedAt
    match tree.kind node with
    | .folder _ entries => do
      let (tree, made) ←
        match tree.find folder path true with
        | .ok made => if tree.isFolder made then .ok (tree, made) else .error .notFolder
        | .error _ => tree.makeFolder folder path (mode &&& (0o777 ^^^ style.mask))
      let tree ← entries.foldlM (fun tree (name, inner) =>
        if inner = made then .ok tree
        else copyNode style folder depth tree inner (joinPath path name)) tree
      return if style.keepsTimes then tree.setTime made time else tree
    | .link target => do
      let cleared := ((tree.removeFile folder path).toOption).getD tree
      cleared.makeLink folder path target
    | _ => do
      let bytes ← tree.content node
      let (tree, made) ← tree.ensureFile folder path (mode &&& (0o777 ^^^ style.mask))
      if tree.isFolder made then .error .isFolder
      let tree := tree.setContent made bytes
      return if style.keepsTimes then (tree.setTime made time).setMode made mode else tree

/-- What goes wrong with one copy, in words. -/
def copyOne (style : CopyStyle) (folder : Nat) (source target : Octets) (tree : FileTree) :
    Except Octets FileTree := do
  let follows := !style.keepsLinks
  let node ←
    match tree.find folder source follows with
    | .ok node => .ok node
    | .error fault => .error ("cannot stat " ++ quote source ++ ": " ++ fault.text)
  let isFolder := tree.isFolder node
  if isFolder && !style.recurses then
    .error ("-r not specified; omitting directory " ++ quote source)
  let there := (tree.find folder target true).toOption
  if there = some node && !isFolder then
    .error (quote source ++ " and " ++ quote target ++ " are the same file")
  if there.any tree.isFolder && !isFolder then
    .error ("cannot overwrite directory " ++ quote target ++ " with non-directory " ++ quote source)
  if isFolder && there.any fun other => !tree.isFolder other then
    .error ("cannot overwrite non-directory " ++ quote target ++ " with directory " ++ quote source)
  let targetFolder := (tree.finalSlot Path.linkLimit folder target).toOption.map (·.folder)
  if isFolder && targetFolder.any fun other => tree.isWithin node tree.nodes.size other then
    .error ("cannot copy a directory, " ++ quote source ++ ", into itself, " ++ quote target)
  if there.isSome && style.keepsExisting then return tree
  let cannot (fault : FileFault) : Octets :=
    "cannot create " ++ (if isFolder then "directory " else "regular file ") ++ quote target ++ ": " ++
      fault.text
  let cleared :=
    if style.makesLinks || style.makesNames then
      if style.forces then ((tree.removeFile folder target).toOption).getD tree else tree
    else tree
  let copied :=
    if style.makesLinks then cleared.makeLink folder target source
    else if style.makesNames && !isFolder then cleared.makeName folder node target
    else copyNode style folder 100 tree node target
  match copied with
  | .ok tree => return tree
  | .error fault => .error (cannot fault)

/-- Makes one copy after another, and gives 1 if one of them failed. -/
def copyAll (invocation : Invocation) (change : Octets → Octets → FileTree → Except Octets FileTree)
    (done : Octets → Octets → Work Unit) : List (Octets × Octets) → Work Nat
  | [] => return 0
  | (source, target) :: rest => do
    match change source target (← Work.tree) with
    | .ok tree => do
      Work.store tree
      done source target
      copyAll invocation change done rest
    | .error message => do
      warn invocation message
      let _ ← copyAll invocation change done rest
      return 1

def cp : Tool := fun invocation => do
  let parsed ← arguments invocation
    [⟨'r', "recursive", .nothing⟩, ⟨'R', "", .nothing⟩, ⟨'a', "archive", .nothing⟩,
     ⟨'f', "force", .nothing⟩, ⟨'i', "interactive", .nothing⟩, ⟨'n', "no-clobber", .nothing⟩,
     ⟨'p', "", .nothing⟩, ⟨'u', "update", .optional⟩, ⟨'v', "verbose", .nothing⟩,
     ⟨'t', "target-directory", .needed⟩, ⟨'T', "no-target-directory", .nothing⟩,
     ⟨'l', "link", .nothing⟩, ⟨'s', "symbolic-link", .nothing⟩, ⟨'P', "no-dereference", .nothing⟩,
     ⟨'d', "", .nothing⟩, ⟨'L', "dereference", .nothing⟩, ⟨'H', "", .nothing⟩,
     ⟨'\x10', "preserve", .optional⟩, ⟨'x', "one-file-system", .nothing⟩]
  let any (letters : List Char) : Bool := letters.any parsed.has
  let style : CopyStyle :=
    { recurses := any ['r', 'R', 'a'], forces := any ['f'], keepsExisting := any ['n', 'i']
      keepsLinks := any ['a', 'P', 'd'] || (any ['r', 'R'] && !any ['L', 'H'])
      keepsTimes := any ['a', 'p', '\x10'], makesLinks := any ['s'], makesNames := any ['l']
      mask := invocation.mask }
  let pairs ← copyPairs invocation parsed
  copyAll invocation (copyOne style invocation.folder)
    (fun source target => do
      if parsed.has 'v' then put invocation (quote source ++ " -> " ++ quote target ++ "\n")) pairs

/-! ## Moving -/

/-- What goes wrong with one move, in words. -/
def moveOne (keepsExisting : Bool) (folder : Nat) (source target : Octets) (tree : FileTree) :
    Except Octets FileTree := do
  let node ←
    match tree.find folder source false with
    | .ok node => .ok node
    | .error fault => .error ("cannot stat " ++ quote source ++ ": " ++ fault.text)
  let there := (tree.find folder target false).toOption
  let isFolder := tree.isFolder node
  if there = some node then .error (quote source ++ " and " ++ quote target ++ " are the same file")
  if there.any tree.isFolder && !isFolder then
    .error ("cannot overwrite directory " ++ quote target ++ " with non-directory")
  if isFolder && there.any fun other => !tree.isFolder other then
    .error ("cannot overwrite non-directory " ++ quote target ++ " with directory " ++ quote source)
  if there.isSome && keepsExisting then return tree
  match tree.rename folder source target with
  | .ok tree => return tree
  | .error .badArgument =>
    .error ("cannot move " ++ quote source ++ " to a subdirectory of itself, " ++ quote target)
  | .error fault =>
    .error ("cannot move " ++ quote source ++ " to " ++ quote target ++ ": " ++ fault.text)

def mv : Tool := fun invocation => do
  let parsed ← arguments invocation
    [⟨'f', "force", .nothing⟩, ⟨'i', "interactive", .nothing⟩, ⟨'n', "no-clobber", .nothing⟩,
     ⟨'v', "verbose", .nothing⟩, ⟨'t', "target-directory", .needed⟩,
     ⟨'T', "no-target-directory", .nothing⟩, ⟨'u', "update", .optional⟩]
  let keepsExisting := parsed.lastOf ['f', 'i', 'n'] = some 'n' || parsed.lastOf ['f', 'i', 'n'] = some 'i'
  let pairs ← copyPairs invocation parsed
  copyAll invocation (moveOne keepsExisting invocation.folder)
    (fun source target => do
      if parsed.has 'v' then
        put invocation ("renamed " ++ quote source ++ " -> " ++ quote target ++ "\n")) pairs

/-- Copies files and sets their modes, or makes folders. -/
def install : Tool := fun invocation => do
  let parsed ← arguments invocation
    [⟨'d', "directory", .nothing⟩, ⟨'m', "mode", .needed⟩, ⟨'D', "", .nothing⟩, ⟨'v', "verbose", .nothing⟩,
     ⟨'t', "target-directory", .needed⟩, ⟨'T', "no-target-directory", .nothing⟩, ⟨'c', "", .nothing⟩,
     ⟨'p', "preserve-timestamps", .nothing⟩, ⟨'o', "owner", .needed⟩, ⟨'g', "group", .needed⟩,
     ⟨'s', "strip", .nothing⟩]
  let mode ← modeOption { invocation with mask := 0 } parsed 0o755
  if parsed.has 'd' then
    eachOperand (fun path => do
      match ← makeAlong invocation mode (pathsAlong path) with
      | none => return true
      | some (path, fault) => do
        warn invocation ("cannot create directory " ++ quote path ++ ": " ++ fault.text)
        return false) parsed.operands
  else do
    if parsed.has 'D' then
      match parsed.operands.getLast? with
      | some target =>
        let _ ← makeAlong invocation 0o755 (pathsAlong (folderPart target))
      | none => pure ()
    let style : CopyStyle := ⟨false, false, false, false, false, false, false, invocation.mask⟩
    let pairs ← copyPairs invocation parsed
    copyAll invocation (fun source target tree => do
      let tree ← copyOne style invocation.folder source target tree
      match tree.find invocation.folder target true with
      | .ok node => return tree.setMode node mode
      | .error _ => return tree) (fun _ _ => pure ()) pairs

end Overseer.Tool
