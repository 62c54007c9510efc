import Overseer.Tools.Condition
import Overseer.Tools.Input
import Overseer.Tools.Printing

/-!
# Plain tools

Tools that only look at their arguments: they end with a status, write something short, or
wait.
-/

namespace Overseer.Tool

def succeed : Tool := fun invocation => do
  if invocation.arguments = ["--help"] || invocation.arguments = ["--version"] then do
    let _ ← parse invocation [] 0 false
  return 0

def failure : Tool := fun _ => return 1

def echo : Tool := fun invocation => do
  put invocation (programEcho invocation.arguments)
  return 0

def printf : Tool := fun invocation => do
  let parsed ← parse { invocation with arguments := invocation.arguments.take 1 } [] 1 true
  let operands := parsed.operands ++ invocation.arguments.drop 1
  match operands with
  | [] => missingOperand invocation 1
  | format :: values => do
    let printed := PrintStyle.ofProgram.print format values
    for complaint in printed.complaints do warn invocation complaint
    put invocation printed.octets
    match printed.fault with
    | some fault => fail invocation 1 fault
    | none => return if printed.complaints.isEmpty then 0 else 1

/-- Says whether a condition holds. -/
def testing (invocation : Invocation) (words : List Octets) : Work Nat := do
  let view ← Work.look
  match Condition.holds ⟨view.tree, invocation.folder, view.descriptors⟩ words with
  | .error message => fail invocation 2 message
  | .ok holds => return if holds then 0 else 1

def test : Tool := fun invocation => testing invocation invocation.arguments

def bracket : Tool := fun invocation =>
  if invocation.arguments.getLast? = some "]" then testing invocation invocation.arguments.dropLast
  else fail invocation 2 "missing ']'"

/-- Writes a row of words again and again, until nobody reads them. -/
def yes : Tool := fun invocation => do
  let parsed ← arguments invocation []
  let line := (if parsed.operands.isEmpty then "y" else " ".intercalate parsed.operands) ++ "\n"
  let piece := String.join (List.replicate (8192 / line.length + 1) line)
  Work.iterate (fun _ => do
    Work.pause
    put invocation piece
    return .inl ()) ()

/-! ## Waiting -/

/-- The span that a count of seconds, minutes, hours or days writes. -/
def spanOf? (text : Octets) : Option Span := do
  let (value, rest) ← leadingFloat? true text.toList
  let scale : Float ←
    match rest with
    | [] | ['s'] => some 1
    | ['m'] => some 60
    | ['h'] => some 3600
    | ['d'] => some 86400
    | _ => none
  let nanos := (value * scale * 1e9).ceil
  if nanos ≥ 0 then some ⟨if nanos < 1e25 then nanos.toUInt64.toNat else powerOfTen 25⟩ else none

def sleep : Tool := fun invocation => do
  let parsed ← arguments invocation []
  if parsed.operands.isEmpty then missingOperand invocation 1
  let spans := parsed.operands.map fun word => (word, spanOf? word)
  for (word, span) in spans do
    if span.isNone then warn invocation ("invalid time interval " ++ quote word)
  if spans.any (·.2.isNone) then do
    let _ ← Work.write 2 ("Try '" ++ invocation.name ++ " --help' for more information.\n")
    return 1
  else do
    Work.sleep ⟨spans.foldl (fun total (_, span) => total + (span.getD .zero).nanos) 0⟩
    return 0

/-! ## Paths -/

/-- A path without the slashes at its end; the root keeps one. -/
def withoutEnd (path : Octets) : Octets :=
  let chars := path.toList.reverse.dropWhile (· = '/')
  if chars.isEmpty && !path.isEmpty then "/" else String.ofList chars.reverse

/-- The last step of a path. -/
def lastStep (path : Octets) : Octets :=
  let path := withoutEnd path
  if path = "/" then path else String.ofList (path.toList.reverse.takeWhile (· ≠ '/')).reverse

/-- A path without its last step. -/
def folderPart (path : Octets) : Octets :=
  let path := withoutEnd path
  let chars := path.toList.reverse.dropWhile (· ≠ '/')
  if path = "/" then path
  else if chars.isEmpty then "."
  else withoutEnd (String.ofList chars.reverse)

/-- A name without a part at its end, unless that is all of it. -/
def withoutSuffix (name suffix : Octets) : Octets :=
  if name.endsWith suffix && name ≠ suffix then (name.dropEnd suffix.length).toString else name

def basename : Tool := fun invocation => do
  let parsed ← parse invocation
    [⟨'a', "multiple", .nothing⟩, ⟨'s', "suffix", .needed⟩, ⟨'z', "zero", .nothing⟩] 1 true
  let ending := if parsed.has 'z' then "\x00" else "\n"
  let suffix := parsed.value? 's'
  if parsed.operands.isEmpty then missingOperand invocation 1
  let names ←
    if parsed.has 'a' || suffix.isSome then
      pure (parsed.operands.map fun path => withoutSuffix (lastStep path) (suffix.getD ""))
    else do
      refuseExtra invocation 1 2 parsed.operands
      pure [withoutSuffix (lastStep (parsed.operands.headD "")) (parsed.operands[1]?.getD "")]
  put invocation (String.join (names.map (· ++ ending)))
  return 0

def dirname : Tool := fun invocation => do
  let parsed ← arguments invocation [⟨'z', "zero", .nothing⟩]
  if parsed.operands.isEmpty then missingOperand invocation 1
  let ending := if parsed.has 'z' then "\x00" else "\n"
  put invocation (String.join (parsed.operands.map fun path => folderPart path ++ ending))
  return 0

def pwd : Tool := fun invocation => do
  let parsed ← arguments invocation [⟨'L', "logical", .nothing⟩, ⟨'P', "physical", .nothing⟩]
  let tree ← Work.tree
  let path := tree.pathOf invocation.folder
  let shown :=
    match invocation.environment.lookup "PWD" with
    | some given =>
      if parsed.lastOf ['L', 'P'] = some 'L' && given.startsWith "/" &&
        (tree.find FileTree.root given true).toOption = some invocation.folder then given else path
    | none => path
  put invocation (shown ++ "\n")
  return 0

/-! ## About the system -/

def say (words : Octets) : Tool := fun invocation => do
  let _ ← arguments invocation []
  put invocation (words ++ "\n")
  return 0

def uname : Tool := fun invocation => do
  let parsed ← arguments invocation
    [⟨'a', "all", .nothing⟩, ⟨'s', "kernel-name", .nothing⟩, ⟨'n', "nodename", .nothing⟩,
     ⟨'r', "kernel-release", .nothing⟩, ⟨'v', "kernel-version", .nothing⟩,
     ⟨'m', "machine", .nothing⟩, ⟨'p', "processor", .nothing⟩, ⟨'o', "operating-system", .nothing⟩]
  refuseExtra invocation 1 0 parsed.operands
  let parts : List (Char × Octets) :=
    [('s', "Linux"), ('n', "localhost"), ('r', "6.1.0"), ('v', "#1 SMP"), ('m', "x86_64"),
     ('o', "GNU/Linux")]
  let letters := if parsed.options.isEmpty then ['s'] else parsed.options.map (·.1)
  let isMeant (part : Char × Octets) : Bool := letters.contains 'a' || letters.contains part.1
  put invocation (" ".intercalate ((parts.filter isMeant).map (·.2)) ++ "\n")
  return 0

def whoIs : Tool := fun invocation => do
  let parsed ← arguments invocation
    [⟨'u', "user", .nothing⟩, ⟨'g', "group", .nothing⟩, ⟨'G', "groups", .nothing⟩,
     ⟨'n', "name", .nothing⟩, ⟨'r', "real", .nothing⟩, ⟨'z', "zero", .nothing⟩]
  match parsed.operands with
  | user :: _ =>
    if user ≠ "root" && user ≠ "0" then fail invocation 1 (quote user ++ ": no such user")
  | [] => pure ()
  match parsed.lastOf ['u', 'g', 'G'] with
  | some _ => put invocation (if parsed.has 'n' then "root\n" else "0\n")
  | none => put invocation "uid=0(root) gid=0(root) groups=0(root)\n"
  return 0

def printEnvironment : Tool := fun invocation => do
  let parsed ← parse invocation [⟨'0', "null", .nothing⟩] 2 true
  let ending := if parsed.has '0' then "\x00" else "\n"
  if parsed.operands.isEmpty then do
    let line (entry : Octets × Octets) : Octets := entry.1 ++ "=" ++ entry.2 ++ ending
    put invocation (String.join (invocation.environment.map line))
    return 0
  else do
    let values := parsed.operands.map fun name => invocation.environment.lookup name
    put invocation (String.join (values.filterMap fun value => value.map (· ++ ending)))
    return if values.all (·.isSome) then 0 else 1

/-- There is no terminal. -/
def terminal : Tool := fun invocation => do
  let parsed ← arguments invocation [⟨'s', "silent", .nothing⟩]
  if !parsed.has 's' then put invocation "not a tty\n"
  return 1

/-- Sends a signal to processes. -/
def kill : Tool := fun invocation => do
  let signal? (word : Octets) : Option Signal :=
    match naturalOf? word.toList with
    | some number => if number < 65 then some number else none
    | none =>
      Signal.ofName? (if word.toUpper.startsWith "SIG" then (word.drop 3).toString else word)
  let (signal, targets) ←
    match invocation.arguments with
    | "-s" :: name :: targets => pure (signal? name, targets)
    | "-l" :: _ => do
      put invocation (" ".intercalate Signal.names ++ "\n")
      Work.exit 0
    | "--" :: targets => pure (some Signal.terminate, targets)
    | first :: targets =>
      if first.startsWith "-" then pure (signal? (first.drop 1).toString, targets)
      else pure (some Signal.terminate, first :: targets)
    | [] => fail invocation 1 "not enough arguments"
  match signal with
  | none => fail invocation 1 "invalid signal name or number"
  | some signal => do
    let known ← targets.mapM fun word => do
      match integerOf? word.toList with
      | some target => do
        if ← Work.send target signal then return true
        else do
          warn invocation ("sending signal to " ++ word ++ " failed: No such process")
          return false
      | none => do
        warn invocation ("cannot find process " ++ Tool.quote word)
        return false
    return if known.all id then 0 else 1

end Overseer.Tool
