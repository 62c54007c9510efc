import Overseer.Files.Mode
import Overseer.Time.Calendar
import Overseer.Tools.Folders

/-!
# Tools that show what is in folders
-/

namespace Overseer.Tool

/-! ## Facts about nodes -/

/-- The size of a node in bytes. -/
def nodeSize (tree : FileTree) (node : Nat) : Nat :=
  match tree.kind node with
  | .file bytes => bytes.size
  | .folder .. => 4096
  | .link target => target.length
  | .device _ => 0

/-- The letter for the kind of a node. -/
def kindLetter (tree : FileTree) (node : Nat) : Char :=
  match tree.kind node with
  | .file _ => '-'
  | .folder .. => 'd'
  | .link _ => 'l'
  | .device _ => 'c'

/-- The kind of a node in words. -/
def kindText (tree : FileTree) (node : Nat) : Octets :=
  match tree.kind node with
  | .file bytes => if bytes.isEmpty then "regular empty file" else "regular file"
  | .folder .. => "directory"
  | .link _ => "symbolic link"
  | .device _ => "character special file"

/-- The number of names of a node, counting the ones that a folder has in itself. -/
def linkCount (tree : FileTree) (node : Nat) : Nat :=
  if tree.isFolder node then 2 + (tree.entries node).countP fun entry => tree.isFolder entry.2
  else tree.nameCount node

def modeText (tree : FileTree) (node : Nat) : Octets :=
  String.singleton (kindLetter tree node) ++ ModeChange.letters (tree.node node).mode

/-- The number of blocks of 512 bytes that a node takes. -/
def blockCount (tree : FileTree) (node : Nat) : Nat :=
  match tree.kind node with
  | .file bytes => (bytes.size + 4095) / 4096 * 8
  | .folder .. => 8
  | _ => 0

/-- When a node was changed last. -/
def changeTime (tree : FileTree) (node : Nat) : Instant :=
  Work.beginning.later (tree.node node).changedAt

/-! ## Listing -/

structure ListStyle where
  showsHidden : Bool
  showsFolders : Bool
  isLong : Bool
  reverses : Bool
  byTime : Bool
  bySize : Bool
  keepsOrder : Bool
  marksKinds : Bool
  marksFolders : Bool
  showsNodes : Bool
  showsBlocks : Bool
  inOneLine : Option Octets
  recurses : Bool

/-- A time as a list shows it. -/
def listTime (instant : Instant) : Octets := (CalendarTime.ofInstant instant).format "%b %e %H:%M"

def ListStyle.mark (style : ListStyle) (tree : FileTree) (node : Nat) : Octets :=
  match tree.kind node with
  | .folder .. => if style.marksKinds || style.marksFolders then "/" else ""
  | .link _ => if style.marksKinds && !style.isLong then "@" else ""
  | .file _ => if style.marksKinds && tree.isExecutable node then "*" else ""
  | .device _ => ""

/-- The names of a list in the order in which they are shown. -/
def ListStyle.sort (style : ListStyle) (tree : FileTree) (names : List (Octets × Nat)) :
    List (Octets × Nat) :=
  let byName := names.mergeSort fun a b => !Octets.isBefore b.1 a.1
  let time (entry : Octets × Nat) : Nat := (tree.node entry.2).changedAt.nanos
  let sorted :=
    if style.keepsOrder then names
    else if style.byTime then byName.mergeSort fun a b => time b ≤ time a
    else if style.bySize then
      byName.mergeSort fun a b => nodeSize tree b.2 ≤ nodeSize tree a.2
    else byName
  if style.reverses then sorted.reverse else sorted

/-- Texts brought to the width of the longest. -/
def aligned (texts : List Octets) : List Octets :=
  let width := (texts.map String.length).foldl max 0
  texts.map fun text => String.ofList (text.toList.leftpad width ' ')

def ListStyle.lines (style : ListStyle) (tree : FileTree) (entries : List (Octets × Nat)) : Octets :=
  let names := entries.map fun (name, node) => name ++ style.mark tree node
  if style.isLong then
    let counts := aligned (entries.map fun entry => Nat.repr (linkCount tree entry.2))
    let sizes := aligned (entries.map fun entry => Nat.repr (nodeSize tree entry.2))
    let rows := (entries.zip names).zip (counts.zip sizes)
    String.join (rows.map fun ((entry, name), count, size) =>
      let target :=
        match tree.kind entry.2 with
        | .link target => " -> " ++ target
        | _ => ""
      modeText tree entry.2 ++ " " ++ count ++ " root root " ++ size ++ " " ++
        listTime (changeTime tree entry.2) ++ " " ++ name ++ target ++ "\n")
  else
    let texts := (entries.zip names).map fun (entry, name) =>
      (if style.showsNodes then Nat.repr entry.2 ++ " " else "") ++
        (if style.showsBlocks then Nat.repr (blockCount tree entry.2 / 2) ++ " " else "") ++ name
    match style.inOneLine with
    | some separator => if texts.isEmpty then "" else separator.intercalate texts ++ "\n"
    | none => String.join (texts.map (· ++ "\n"))

/-- What is shown of a folder. -/
def ListStyle.folder (style : ListStyle) (tree : FileTree) (folder : Nat) (showsOwn : Bool) :
    List (Octets × Nat) :=
  let own :=
    if showsOwn then
      let parent :=
        match tree.kind folder with
        | .folder parent _ => parent
        | _ => folder
      [(".", folder), ("..", parent)]
    else []
  let names := (tree.entries folder).filter fun entry => style.showsHidden || !entry.1.startsWith "."
  style.sort tree (own ++ names)

/-- The folders below one, each with the path that leads to it. -/
def foldersBelow (style : ListStyle) (tree : FileTree) : (depth : Nat) → Octets × Nat →
    List (Octets × Nat)
  | 0, folder => [folder]
  | depth + 1, (path, node) =>
    let inner := (style.folder tree node false).filter fun entry => tree.isFolder entry.2
    (path, node) :: inner.flatMap fun (name, inner) =>
      foldersBelow style tree depth (joinPath path name, inner)

def ls : Tool := fun invocation => do
  let parsed ← parse invocation
    [⟨'a', "all", .nothing⟩, ⟨'A', "almost-all", .nothing⟩, ⟨'l', "", .nothing⟩, ⟨'1', "", .nothing⟩,
     ⟨'d', "directory", .nothing⟩, ⟨'R', "recursive", .nothing⟩, ⟨'r', "reverse", .nothing⟩,
     ⟨'t', "", .nothing⟩, ⟨'S', "", .nothing⟩, ⟨'F', "classify", .optional⟩, ⟨'p', "", .nothing⟩,
     ⟨'i', "inode", .nothing⟩, ⟨'s', "size", .nothing⟩, ⟨'h', "human-readable", .nothing⟩,
     ⟨'n', "numeric-uid-gid", .nothing⟩, ⟨'g', "", .nothing⟩, ⟨'o', "", .nothing⟩, ⟨'C', "", .nothing⟩,
     ⟨'x', "", .nothing⟩, ⟨'m', "", .nothing⟩, ⟨'U', "", .nothing⟩, ⟨'f', "", .nothing⟩,
     ⟨'q', "", .nothing⟩, ⟨'Q', "", .nothing⟩, ⟨'L', "dereference", .nothing⟩, ⟨'H', "", .nothing⟩,
     ⟨'X', "", .nothing⟩, ⟨'k', "", .nothing⟩, ⟨'u', "", .nothing⟩, ⟨'c', "", .nothing⟩,
     ⟨'b', "", .nothing⟩, ⟨'N', "", .nothing⟩, ⟨'v', "", .nothing⟩, ⟨'\x10', "color", .optional⟩,
     ⟨'\x11', "group-directories-first", .nothing⟩, ⟨'\x12', "full-time", .nothing⟩,
     ⟨'w', "width", .needed⟩] 2 false
  let any (letters : List Char) : Bool := letters.any parsed.has
  let style : ListStyle :=
    { showsHidden := any ['a', 'A', 'f'], showsFolders := any ['d']
      isLong := any ['l', 'n', 'g', 'o', '\x12'], reverses := any ['r'], byTime := any ['t']
      bySize := any ['S'], keepsOrder := any ['U', 'f'], marksKinds := any ['F']
      marksFolders := any ['p'], showsNodes := any ['i'], showsBlocks := any ['s']
      inOneLine :=
        match parsed.lastOf ['1', 'C', 'x', 'm', 'l'] with
        | some 'C' | some 'x' => some "  "
        | some 'm' => some ", "
        | _ => none
      recurses := any ['R'] }
  let tree ← Work.tree
  let operands := if parsed.operands.isEmpty then ["."] else parsed.operands
  let found := operands.map fun path =>
    let follows := !(style.isLong || style.showsFolders || style.marksKinds) || path.endsWith "/"
    match tree.find invocation.folder path follows with
    | .ok node => (path, Except.ok node)
    | .error _ => (path, tree.find invocation.folder path false)
  for (path, node) in found do
    match node with
    | .error fault => warn invocation ("cannot access " ++ quote path ++ ": " ++ fault.text)
    | .ok _ => pure ()
  let entries := found.filterMap fun (path, node) => node.toOption.map (path, ·)
  let (folders, files) :=
    if style.showsFolders then ([], entries)
    else entries.partition fun entry => tree.isFolder entry.2
  put invocation (style.lines tree (style.sort tree files))
  let folders := style.sort tree folders
  let folders := if style.recurses then folders.flatMap (foldersBelow style tree 100) else folders
  let hasHeaders := 1 < operands.length || style.recurses
  for ((path, folder), place) in folders.zipIdx do
    let entries := style.folder tree folder (any ['a', 'f'])
    let total := (entries.map fun entry => blockCount tree entry.2 / 2).foldl (· + ·) 0
    put invocation
      ((if place = 0 && files.isEmpty then "" else "\n") ++
        (if hasHeaders then path ++ ":\n" else "") ++
        (if style.isLong || style.showsBlocks then "total " ++ Nat.repr total ++ "\n" else "") ++
        style.lines tree entries)
  return if entries.length = found.length then 0 else 2

/-! ## Single files -/

/-- What a letter of a format says about a file. -/
def statPart (tree : FileTree) (path : Octets) (node : Nat) : Char → Octets
  | 'n' => path
  | 'N' => quote path
  | 's' => Nat.repr (nodeSize tree node)
  | 'a' => String.ofList (Nat.toDigits 8 (tree.node node).mode)
  | 'A' => modeText tree node
  | 'F' => kindText tree node
  | 'f' =>
    let kind :=
      match tree.kind node with
      | .file _ => 0o100000
      | .folder .. => 0o040000
      | .link _ => 0o120000
      | .device _ => 0o020000
    String.ofList (Nat.toDigits 16 (kind + (tree.node node).mode))
  | 'h' => Nat.repr (linkCount tree node)
  | 'i' => Nat.repr node
  | 'b' => Nat.repr (blockCount tree node)
  | 'B' => "512"
  | 'o' => "4096"
  | 'u' | 'g' => "0"
  | 'U' | 'G' => "root"
  | 'X' | 'Y' | 'Z' | 'W' => integerText ((changeTime tree node).nanos / 1000000000)
  | 'd' => "1"
  | 'D' => "1"
  | 'm' => "/"
  | 't' | 'T' => "0"
  | '%' => "%"
  | c => "?" ++ String.singleton c

def statText (tree : FileTree) (path : Octets) (node : Nat) : List Char → List Char
  | '%' :: c :: rest => (statPart tree path node c).toList ++ statText tree path node rest
  | c :: rest => c :: statText tree path node rest
  | [] => []

def stat : Tool := fun invocation => do
  let parsed ← arguments invocation
    [⟨'c', "format", .needed⟩, ⟨'\x10', "printf", .needed⟩, ⟨'L', "dereference", .nothing⟩,
     ⟨'f', "file-system", .nothing⟩, ⟨'t', "terse", .nothing⟩]
  if parsed.operands.isEmpty then missingOperand invocation 1
  eachOperand (fun path => do
    match ← nodeAt invocation path (parsed.has 'L') with
    | .error fault => do
      warn invocation ("cannot statx " ++ quote path ++ ": " ++ fault.text)
      return false
    | .ok (tree, node) => do
      let standard :=
        "  File: %n\n  Size: %s\tBlocks: %b\tIO Block: %o %F\nAccess: (%a/%A)  Uid: ( 0/ root)   " ++
          "Gid: ( 0/ root)"
      let format := (parsed.value? 'c').getD standard
      match parsed.value? '\x10' with
      | some format =>
        let unescaped := (PrintStyle.ofProgram.format.unescape format).1
        put invocation (String.ofList (statText tree path node unescaped.toList))
      | none => put invocation (String.ofList (statText tree path node format.toList) ++ "\n")
      return true) parsed.operands

/-- The blocks of a node with all that is below it; `depth` bounds the levels. -/
def totalBlocks (tree : FileTree) : (depth : Nat) → Nat → Nat
  | 0, node => blockCount tree node
  | depth + 1, node =>
    (tree.entries node).foldl (fun total entry => total + totalBlocks tree depth entry.2)
      (blockCount tree node)

/-- The sizes of the folders below a path, innermost first. -/
def sizesBelow (tree : FileTree) (all : Bool) : (depth : Nat) → Octets → Nat → List (Octets × Nat)
  | 0, path, node => [(path, totalBlocks tree 0 node)]
  | depth + 1, path, node =>
    ((tree.entries node).flatMap fun (name, inner) =>
      if tree.isFolder inner || all then sizesBelow tree all depth (joinPath path name) inner else []) ++
      [(path, totalBlocks tree (depth + 1) node)]

def du : Tool := fun invocation => do
  let parsed ← arguments invocation
    [⟨'a', "all", .nothing⟩, ⟨'s', "summarize", .nothing⟩, ⟨'h', "human-readable", .nothing⟩,
     ⟨'k', "", .nothing⟩, ⟨'b', "bytes", .nothing⟩, ⟨'c', "total", .nothing⟩, ⟨'m', "", .nothing⟩,
     ⟨'d', "max-depth", .needed⟩]
  eachOperand (fun path => do
    match ← nodeAt invocation path false with
    | .error fault => do
      warn invocation ("cannot access " ++ quote path ++ ": " ++ fault.text)
      return false
    | .ok (tree, node) => do
      let sizes := sizesBelow tree (parsed.has 'a') 100 path node
      let shown := if parsed.has 's' then [(path, totalBlocks tree 100 node)] else sizes
      put invocation (String.join (shown.map fun (path, blocks) =>
        Nat.repr (blocks / 2) ++ "\t" ++ path ++ "\n"))
      return true) (if parsed.operands.isEmpty then ["."] else parsed.operands)

end Overseer.Tool
