import Overseer.Files.Mode
import Overseer.Tools.Amount
import Overseer.Tools.Plain

/-!
# Tools that make, remove and mark files
-/

namespace Overseer.Tool

/-- Does something with each of some operands, and gives 1 if one of them failed. -/
def eachOperand (action : Octets → Work Bool) : List Octets → Work Nat
  | [] => return 0
  | operand :: rest => do
    let isDone ← action operand
    let status ← eachOperand action rest
    return if isDone then status else 1

/-- Changes the file tree, and gives whether that was possible; a message is written if
not. -/
def attemptChange (invocation : Invocation) (message : Octets)
    (change : FileTree → Except FileFault FileTree) : Work Bool := do
  match ← Work.change change with
  | none => return true
  | some fault => do
    warn invocation (message ++ ": " ++ fault.text)
    return false

/-- The node at a path, as seen now. -/
def nodeAt (invocation : Invocation) (path : Octets) (follow : Bool) :
    Work (Except FileFault (FileTree × Nat)) := do
  let tree ← Work.tree
  return (tree.find invocation.folder path follow).map (tree, ·)

/-- A path with one more step. -/
def joinPath (folder name : Octets) : Octets :=
  if folder.endsWith "/" then folder ++ name else folder ++ "/" ++ name

/-! ## Making and removing folders -/

/-- The mode that an option asks for. -/
def modeOption (invocation : Invocation) (parsed : Parsed) (standard : Nat) : Work Nat := do
  match parsed.value? 'm' with
  | none => return standard &&& (0o777 ^^^ invocation.mask)
  | some text =>
    match ModeChange.ofText? text with
    | some change => return change.apply invocation.mask true 0o777
    | none => fail invocation 1 ("invalid mode: " ++ quote text)

/-- The folders that a path goes through, the last one included. -/
def pathsAlong (path : Octets) : List Octets :=
  let steps := (withoutEnd path).splitOn "/"
  ((List.range steps.length).map fun count => "/".intercalate (steps.take (count + 1))).filter
    (· ≠ "")

/-- Makes a folder with those above it that are missing. -/
def makeAlong (invocation : Invocation) (mode : Nat) : List Octets → Work (Option (Octets × FileFault))
  | [] => return none
  | path :: rest => do
    let change (tree : FileTree) : Except FileFault FileTree :=
      match tree.find invocation.folder path true with
      | .ok node => if tree.isFolder node then .ok tree else .error .alreadyThere
      | .error .missing => (tree.makeFolder invocation.folder path mode).map (·.1)
      | .error fault => .error fault
    match ← Work.change change with
    | none => makeAlong invocation mode rest
    | some fault => return some (path, if rest.isEmpty then fault else
        if fault = .alreadyThere then .notFolder else fault)

def mkdir : Tool := fun invocation => do
  let parsed ← arguments invocation
    [⟨'p', "parents", .nothing⟩, ⟨'m', "mode", .needed⟩, ⟨'v', "verbose", .nothing⟩,
     ⟨'Z', "", .nothing⟩]
  if parsed.operands.isEmpty then missingOperand invocation 1
  let mode ← modeOption invocation parsed 0o777
  eachOperand (fun path => do
    let refused (path : Octets) (fault : FileFault) : Work Bool := do
      warn invocation ("cannot create directory " ++ quote path ++ ": " ++ fault.text)
      return false
    let done : Work Bool := do
      if parsed.has 'v' then
        put invocation (invocation.name ++ ": created directory " ++ quote path ++ "\n")
      return true
    if parsed.has 'p' then
      match ← makeAlong invocation mode (pathsAlong path) with
      | none => return true
      | some (path, fault) => refused path fault
    else
      match ← Work.change fun tree => (tree.makeFolder invocation.folder path mode).map (·.1) with
      | none => done
      | some fault => refused path fault) parsed.operands

def rmdir : Tool := fun invocation => do
  let parsed ← arguments invocation
    [⟨'p', "parents", .nothing⟩, ⟨'v', "verbose", .nothing⟩,
     ⟨'\x10', "ignore-fail-on-non-empty", .nothing⟩]
  if parsed.operands.isEmpty then missingOperand invocation 1
  eachOperand (fun path => do
    let paths := if parsed.has 'p' then (pathsAlong path).reverse else [path]
    let status ← eachOperand (fun path => do
      match ← Work.change fun tree => tree.removeFolder invocation.folder path with
      | none => return true
      | some .notEmpty =>
        if parsed.has '\x10' then return true
        else do
          warn invocation ("failed to remove " ++ quote path ++ ": " ++ FileFault.notEmpty.text)
          return false
      | some fault => do
        warn invocation ("failed to remove " ++ quote path ++ ": " ++ fault.text)
        return false) paths
    return status = 0) parsed.operands

/-! ## Removing -/

/-- Takes a folder away with all that is in it. What cannot be seen any more needs no
further change. -/
def removeWhole (tree : FileTree) (folder : Nat) (path : Octets) : Except FileFault FileTree := do
  let slot ← tree.slot folder path
  match slot.node with
  | none => .error .missing
  | some _ => return tree.unbind slot.folder slot.name

/-- Asks whether something is to be done. -/
def confirmed (invocation : Invocation) (question : Octets) : Work Bool := do
  let _ ← Work.write 2 (invocation.name ++ ": " ++ question ++ "? ")
  let answer ← Work.iterate (fun (answer : Octets) => do
    match ← Work.read 0 1 with
    | .error _ | .ok "" | .ok "\n" => return .inr answer
    | .ok c => return .inl (answer ++ c)) ""
  return answer.startsWith "y" || answer.startsWith "Y"

def rm : Tool := fun invocation => do
  let parsed ← arguments invocation
    [⟨'f', "force", .nothing⟩, ⟨'i', "", .nothing⟩, ⟨'I', "", .nothing⟩,
     ⟨'r', "recursive", .nothing⟩, ⟨'R', "", .nothing⟩, ⟨'d', "dir", .nothing⟩,
     ⟨'v', "verbose", .nothing⟩, ⟨'\x10', "no-preserve-root", .nothing⟩,
     ⟨'\x11', "preserve-root", .optional⟩, ⟨'\x12', "one-file-system", .nothing⟩,
     ⟨'\x13', "interactive", .optional⟩]
  let forces := parsed.lastOf ['f', 'i'] = some 'f'
  let recurses := parsed.has 'r' || parsed.has 'R'
  if parsed.operands.isEmpty && !forces then missingOperand invocation 1
  eachOperand (fun path => do
    let refused (message : Octets) : Work Bool := do
      warn invocation message
      return false
    let cannot (fault : FileFault) : Work Bool :=
      refused ("cannot remove " ++ quote path ++ ": " ++ fault.text)
    let last := lastStep path
    let tree ← Work.tree
    if recurses && (last = "." || last = "..") then
      refused ("refusing to remove '.' or '..' directory: skipping " ++ quote path)
    else if recurses && last = "/" && !parsed.has '\x10' then do
      let _ ← refused "it is dangerous to operate recursively on '/'"
      refused "use --no-preserve-root to override this failsafe"
    else
      match tree.find invocation.folder path false with
      | .error fault => if forces && (fault = .missing || fault = .notFolder) then return true else cannot fault
      | .ok node => do
        let isFolder := tree.isFolder node
        if isFolder && !recurses && !(parsed.has 'd' && (tree.entries node).isEmpty) then
          cannot (if parsed.has 'd' then .notEmpty else .isFolder)
        else
          let question := (if isFolder then "remove directory " else "remove regular file ") ++ quote path
          let isMeant ← if parsed.has 'i' && !forces then confirmed invocation question else pure true
          if !isMeant then return true
          else
            match ← Work.change fun tree => removeWhole tree invocation.folder path with
            | some fault => cannot fault
            | none => do
              if parsed.has 'v' then
                put invocation ((if isFolder then "removed directory " else "removed ") ++ quote path ++ "\n")
              return true) parsed.operands

/-! ## Marking -/

def touch : Tool := fun invocation => do
  let parsed ← arguments invocation
    [⟨'a', "", .nothing⟩, ⟨'c', "no-create", .nothing⟩, ⟨'d', "date", .needed⟩, ⟨'f', "", .nothing⟩,
     ⟨'h', "no-dereference", .nothing⟩, ⟨'m', "", .nothing⟩, ⟨'r', "reference", .needed⟩,
     ⟨'t', "", .needed⟩, ⟨'\x10', "time", .needed⟩]
  if parsed.operands.isEmpty then misuse invocation 1 "missing file operand"
  let view ← Work.look
  let time ←
    match parsed.value? 'r' with
    | none => pure (if parsed.has 'd' || parsed.has 't' then Span.zero else view.uptime)
    | some path =>
      match view.tree.find invocation.folder path true with
      | .ok node => pure (view.tree.node node).changedAt
      | .error fault =>
        fail invocation 1 ("failed to get attributes of " ++ quote path ++ ": " ++ fault.text)
  let mode := 0o666 &&& (0o777 ^^^ invocation.mask)
  eachOperand (fun path =>
    attemptChange invocation ("cannot touch " ++ quote path) fun tree =>
      match tree.find invocation.folder path true with
      | .ok node => .ok (tree.setTime node time)
      | .error .missing =>
        if parsed.has 'c' then .ok tree
        else (tree.ensureFile invocation.folder path mode).map fun (tree, node) => tree.setTime node time
      | .error fault => .error fault) parsed.operands

/-- A node with all that is below it, given at most so many levels. -/
def nodesBelow (tree : FileTree) : (depth : Nat) → Nat → List Nat
  | 0, node => [node]
  | depth + 1, node => node :: (tree.entries node).flatMap fun entry => nodesBelow tree depth entry.2

/-- Whether a word is a mode although it looks like an option. -/
def isModeWord (word : Octets) : Bool :=
  match word.toList with
  | '-' :: letters =>
    !letters.isEmpty && letters.all ['r', 'w', 'x', 'X', 's', 't', 'u', 'g', 'o', 'a', ',', '+', '-', '='].contains
  | _ => false

def chmod : Tool := fun invocation => do
  let (modes, words) := invocation.arguments.partition isModeWord
  let parsed ← arguments { invocation with arguments := words }
    [⟨'R', "recursive", .nothing⟩, ⟨'v', "verbose", .nothing⟩, ⟨'c', "changes", .nothing⟩,
     ⟨'f', "silent", .nothing⟩, ⟨'f', "quiet", .nothing⟩, ⟨'\x10', "reference", .needed⟩]
  match modes ++ parsed.operands with
  | [] => missingOperand invocation 1
  | text :: paths => do
    if paths.isEmpty then misuse invocation 1 ("missing operand after " ++ quote text)
    match ModeChange.ofText? text with
    | none => misuse invocation 1 ("invalid mode: " ++ quote text)
    | some change =>
      eachOperand (fun path =>
        attemptChange invocation ("cannot access " ++ quote path) fun tree => do
          let node ← tree.find invocation.folder path true
          let nodes := if parsed.has 'R' then nodesBelow tree 100 node else [node]
          return nodes.foldl (fun tree node =>
            tree.setMode node
              (change.apply invocation.mask (tree.isFolder node) (tree.node node).mode)) tree) paths

/-- Owners are not kept; it is only looked whether the files are there. -/
def chown : Tool := fun invocation => do
  let parsed ← arguments invocation
    [⟨'R', "recursive", .nothing⟩, ⟨'v', "verbose", .nothing⟩, ⟨'h', "", .nothing⟩,
     ⟨'f', "silent", .nothing⟩]
  match parsed.operands with
  | [] => missingOperand invocation 1
  | owner :: paths => do
    if paths.isEmpty then misuse invocation 1 ("missing operand after " ++ quote owner)
    eachOperand (fun path =>
      attemptChange invocation ("cannot access " ++ quote path) fun tree => do
        let _ ← tree.find invocation.folder path true
        return tree) paths

/-! ## Links -/

def ln : Tool := fun invocation => do
  let parsed ← arguments invocation
    [⟨'s', "symbolic", .nothing⟩, ⟨'f', "force", .nothing⟩, ⟨'n', "no-dereference", .nothing⟩,
     ⟨'v', "verbose", .nothing⟩, ⟨'T', "no-target-directory", .nothing⟩,
     ⟨'t', "target-directory", .needed⟩, ⟨'r', "relative", .nothing⟩, ⟨'L', "", .nothing⟩,
     ⟨'P', "", .nothing⟩, ⟨'i', "", .nothing⟩]
  let tree ← Work.tree
  let isFolder (path : Octets) : Bool :=
    match tree.find invocation.folder path true with
    | .ok node => tree.isFolder node
    | .error _ => false
  let (sources, target) ←
    match parsed.operands, parsed.value? 't' with
    | [], _ => misuse invocation 1 "missing file operand"
    | sources, some folder => pure (sources, folder)
    | [source], none => pure ([source], ".")
    | operands, none => pure (operands.dropLast, operands.getLastD "")
  let intoFolder := isFolder target && !parsed.has 'T'
  if !intoFolder && 1 < sources.length then
    fail invocation 1 ("target " ++ quote target ++ ": Not a directory")
  eachOperand (fun source => do
    let path := if intoFolder then joinPath target (lastStep source) else target
    let kind := if parsed.has 's' then "symbolic link " else "hard link "
    if !parsed.has 's' then
      match ← nodeAt invocation source false with
      | .error fault => do
        warn invocation ("failed to access " ++ quote source ++ ": " ++ fault.text)
        return false
      | .ok (tree, node) =>
        if tree.isFolder node then do
          warn invocation (shown source ++ ": hard link not allowed for directory")
          return false
        else
          attemptChange invocation ("failed to create " ++ kind ++ quote path) fun tree => do
            let cleared :=
              if parsed.has 'f' then ((tree.removeFile invocation.folder path).toOption).getD tree
              else tree
            cleared.makeName invocation.folder node path
    else
      attemptChange invocation ("failed to create " ++ kind ++ quote path) fun tree => do
        let cleared :=
          if parsed.has 'f' then ((tree.removeFile invocation.folder path).toOption).getD tree
          else tree
        cleared.makeLink invocation.folder path source) sources

/-- The path of a node from the root, by the folder that names it. -/
def canonicalPath? (tree : FileTree) (folder : Nat) (path : Octets) : Option Octets :=
  match tree.find folder path true with
  | .ok node =>
    if tree.isFolder node then some (tree.pathOf node)
    else
      match tree.finalSlot Path.linkLimit folder path with
      | .ok slot => some (joinPath (tree.pathOf slot.folder) slot.name)
      | .error _ => none
  | .error .missing =>
    match tree.finalSlot Path.linkLimit folder path with
    | .ok slot => some (joinPath (tree.pathOf slot.folder) slot.name)
    | .error _ => none
  | .error _ => none

def readlink : Tool := fun invocation => do
  let parsed ← arguments invocation
    [⟨'f', "canonicalize", .nothing⟩, ⟨'e', "canonicalize-existing", .nothing⟩,
     ⟨'m', "canonicalize-missing", .nothing⟩, ⟨'n', "no-newline", .nothing⟩, ⟨'q', "quiet", .nothing⟩,
     ⟨'s', "silent", .nothing⟩, ⟨'v', "verbose", .nothing⟩, ⟨'z', "zero", .nothing⟩]
  if parsed.operands.isEmpty then missingOperand invocation 1
  let ending := if parsed.has 'n' then "" else "\n"
  eachOperand (fun path => do
    let tree ← Work.tree
    let found :=
      if parsed.has 'f' || parsed.has 'm' then canonicalPath? tree invocation.folder path
      else if parsed.has 'e' then
        if (tree.find invocation.folder path true).isOk then
          canonicalPath? tree invocation.folder path
        else none
      else
        match (tree.find invocation.folder path false).map tree.kind with
        | .ok (.link target) => some target
        | _ => none
    match found with
    | some text => do
      put invocation (text ++ ending)
      return true
    | none => return false) parsed.operands

def realpath : Tool := fun invocation => do
  let parsed ← arguments invocation
    [⟨'e', "canonicalize-existing", .nothing⟩, ⟨'m', "canonicalize-missing", .nothing⟩,
     ⟨'s', "strip", .nothing⟩, ⟨'q', "quiet", .nothing⟩, ⟨'z', "zero", .nothing⟩,
     ⟨'L', "logical", .nothing⟩, ⟨'P', "physical", .nothing⟩]
  if parsed.operands.isEmpty then missingOperand invocation 1
  eachOperand (fun path => do
    let tree ← Work.tree
    let isThere := (tree.find invocation.folder path true).isOk
    match if parsed.has 'e' && !isThere then none else canonicalPath? tree invocation.folder path with
    | some text => do
      put invocation (text ++ "\n")
      return true
    | none => do
      if !parsed.has 'q' then
        warn invocation (shown path ++ ": " ++ FileFault.missing.text)
      return false) parsed.operands

/-! ## Files without a name given -/

/-- Letters for a number, for names that are not there yet. -/
def nameLetters (count number : Nat) : Octets :=
  let letters := "abcdefghijklmnopqrstuvwxyz0123456789".toList
  String.ofList ((List.range count).map fun place =>
    (letters[(number * 7919 + place * 104729 + number / (place + 1)) % 36]?).getD 'x')

def mktemp : Tool := fun invocation => do
  let parsed ← arguments invocation
    [⟨'d', "directory", .nothing⟩, ⟨'u', "dry-run", .nothing⟩, ⟨'p', "tmpdir", .optional⟩,
     ⟨'t', "", .nothing⟩, ⟨'q', "quiet", .nothing⟩, ⟨'\x10', "suffix", .needed⟩]
  let tree ← Work.tree
  let template := (parsed.operands.head?).getD "tmp.XXXXXXXXXX"
  let chars := template.toList.reverse
  let count := (chars.takeWhile (· = 'X')).length
  let folder :=
    match parsed.value? 'p' with
    | some "" => some "/tmp"
    | some folder => some folder
    | none => if parsed.operands.isEmpty || parsed.has 't' then some "/tmp" else none
  if count < 3 then fail invocation 1 ("too few X's in template " ++ quote template)
  let stem := String.ofList (chars.drop count).reverse
  let name := stem ++ nameLetters count tree.nodes.size ++ (parsed.value? '\x10').getD ""
  let path := (folder.map (joinPath · name)).getD name
  let isFolder := parsed.has 'd'
  let change (tree : FileTree) : Except FileFault FileTree :=
    if parsed.has 'u' then .ok tree
    else if isFolder then (tree.makeFolder invocation.folder path 0o700).map (·.1)
    else tree.write invocation.folder path .empty 0o600
  let what := if isFolder then "directory" else "file"
  let template := (folder.map (joinPath · template)).getD template
  if ← attemptChange invocation
      ("failed to create " ++ what ++ " via template " ++ quote template) change then do
    put invocation (path ++ "\n")
    return 0
  else return 1

/-- A content brought to a size. -/
def resized (bytes : ByteArray) (size : Nat) : ByteArray :=
  if size ≤ bytes.size then bytes.extract 0 size
  else bytes ++ ⟨Array.replicate (size - bytes.size) 0⟩

def truncate : Tool := fun invocation => do
  let parsed ← arguments invocation
    [⟨'s', "size", .needed⟩, ⟨'c', "no-create", .nothing⟩, ⟨'r', "reference", .needed⟩,
     ⟨'o', "io-blocks", .nothing⟩]
  match parsed.value? 's' with
  | none => misuse invocation 1 "you must specify either '--size' or '--reference'"
  | some text => do
    if parsed.operands.isEmpty then misuse invocation 1 "missing file operand"
    let (sign, digits) := text.toList.span fun c => !c.isDigit
    match amountOf? (String.ofList digits) with
    | none => fail invocation 1 ("Invalid number: " ++ quote text)
    | some amount =>
      let size (old : Nat) : Nat :=
        match sign with
        | ['+'] => old + amount
        | ['-'] => old - amount
        | ['<'] => min old amount
        | ['>'] => max old amount
        | _ => amount
      eachOperand (fun path =>
        attemptChange invocation ("cannot open " ++ quote path ++ " for writing") fun tree => do
          let mode := 0o666 &&& (0o777 ^^^ invocation.mask)
          let isMissing := !(tree.find invocation.folder path true).isOk
          if isMissing && parsed.has 'c' then return tree
          let (tree, node) ← tree.ensureFile invocation.folder path mode
          let bytes ← tree.content node
          return tree.setContent node (resized bytes (size bytes.size))) parsed.operands

end Overseer.Tool
