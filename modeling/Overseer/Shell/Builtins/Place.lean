import Overseer.Files.Mode
import Overseer.Shell.Builtins.Variables

/-!
# Commands about the folder and the limits of the shell
-/

namespace Overseer.Shell.Builtin

/-! ## Folders -/

/-- A path from the root without steps that lead back, starting at another one. -/
def logicalPath (start path : Octets) : Octets :=
  let steps := (if path.startsWith "/" then "" else start).splitOn "/" ++ path.splitOn "/"
  let kept := steps.foldl (fun kept step =>
    if step = "" || step = "." then kept
    else if step = ".." then kept.drop 1
    else step :: kept) ([] : List Octets)
  "/" ++ "/".intercalate kept.reverse

/-- Goes to a folder, and gives whether it is there. -/
def enter (physical : Bool) (path : Octets) : Script Bool := do
  let state ← get
  let tree ← Work.tree
  let target := if physical then path else logicalPath state.path path
  match tree.find state.folder target true with
  | .error _ => return false
  | .ok folder =>
    if tree.isFolder folder then do
      let path := if physical then tree.pathOf folder else target
      modify fun state =>
        let state := state.setVariable "OLDPWD" { value := some state.path, isExported := true }
        let state := state.setVariable "PWD" { value := some path, isExported := true }
        { state with folder, path }
      return true
    else return false

/-- The places where a path may start from, as a variable lists them. -/
def startingPlaces (state : State) (path : Octets) : List Octets :=
  let isFixed := path.startsWith "/" ||
    match path.toList with
    | ['.'] | ['.', '.'] | '.' :: '/' :: _ | '.' :: '.' :: '/' :: _ => true
    | _ => false
  match state.value? "CDPATH" with
  | some places => if isFixed then [] else places.splitOn ":"
  | none => []

/-- Goes to the first of some folders that is there. Also gives whether its path is to be
shown. -/
def enterFirst (physical : Bool) (path : Octets) : List Octets → Script (Bool × Bool)
  | [] => do return (← enter physical path, false)
  | place :: rest => do
    let target := if place.isEmpty then path else place ++ "/" ++ path
    let tree ← Work.tree
    let isThere :=
      match tree.find (← get).folder target true with
      | .ok folder => tree.isFolder folder
      | .error _ => false
    if isThere then return (← enter physical target, !place.isEmpty)
    else enterFirst physical path rest

def changing (name : Octets) : Builtin where
  name
  run _ _ arguments := do
    let (options, words) ← options [('L', false), ('P', false)] arguments
    let physical := (options.getLast?.map (·.1)) = some 'P'
    let state ← get
    let given := words.headD (state.value "HOME")
    let path := if given = "-" then state.value "OLDPWD" else given
    let path := if path.isEmpty then "." else path
    match ← enterFirst physical path (startingPlaces state path) with
    | (false, _) => Script.fail ("can't cd to " ++ path)
    | (true, isShown) =>
      if isShown || given = "-" then do say ((← get).path ++ "\n") 0 else return 0

def showing : Builtin where
  name := "pwd"
  run _ _ arguments := do
    let (options, _) ← options [('L', false), ('P', false)] arguments
    let state ← get
    if (options.getLast?.map (·.1)) = some 'P' then
      say ((← Work.tree).pathOf state.folder ++ "\n") 0
    else say (state.path ++ "\n") 0

/-! ## Limits -/

/-- A mask with letters for what it admits. -/
def maskLetters (mask : Nat) : Octets :=
  let shown (name : Octets) (place : Nat) : Octets :=
    let bits := (0o777 ^^^ mask) >>> place
    name ++ "=" ++ (if bits &&& 4 ≠ 0 then "r" else "") ++ (if bits &&& 2 ≠ 0 then "w" else "") ++
      if bits &&& 1 ≠ 0 then "x" else ""
  shown "u" 6 ++ "," ++ shown "g" 3 ++ "," ++ shown "o" 0

def mask : Builtin where
  name := "umask"
  run _ _ arguments := do
    let (options, words) ← options [('S', false)] arguments
    let state ← get
    match words with
    | [] =>
      let digits := String.ofList ((Nat.toDigits 8 state.mask).leftpad 4 '0')
      say ((if options.isEmpty then digits else maskLetters state.mask) ++ "\n") 0
    | word :: _ =>
      if (word.toList.head?).any Char.isDigit then
        if word.toList.all fun c => (digitValue? 8 c).isSome then do
          set { state with mask := valueOfDigits 8 word.toList &&& 0o777 }
          return 0
        else Script.fail ("Illegal number: " ++ word)
      else
        match ModeChange.ofText? word with
        | some change => do
          set { state with mask := 0o777 ^^^ (change.apply 0 false (0o777 ^^^ state.mask) &&& 0o777) }
          return 0
        | none => Script.fail ("Illegal mode: " ++ word)

/-- The limits that may be asked for, and what each counts. -/
def limitNames : List (Char × Octets) :=
  [('t', "time(seconds)"), ('f', "file(blocks)"), ('d', "data(kbytes)"), ('s', "stack(kbytes)"),
   ('c', "coredump(blocks)"), ('m', "memory(kbytes)"), ('l', "locked memory(kbytes)"),
   ('p', "process"), ('n', "nofiles"), ('v', "vmemory(kbytes)"), ('w', "locks"), ('r', "rtprio")]

def limitText : Char → Octets
  | 's' => "8192"
  | 'n' => "1048576"
  | 'r' => "0"
  | _ => "unlimited"

def limit : Builtin where
  name := "ulimit"
  run _ _ arguments := do
    let known := ['H', 'S', 'a'] ++ limitNames.map (·.1)
    let (options, words) ← options (known.map (·, false)) arguments
    let letter := ((options.map (·.1)).filter fun c => c ≠ 'H' && c ≠ 'S').getLastD 'f'
    match words with
    | [] =>
      if letter = 'a' then
        let line (entry : Char × Octets) : Octets :=
          entry.2 ++ String.ofList (List.replicate (20 - entry.2.length) ' ') ++ " " ++
            limitText entry.1 ++ "\n"
        say (String.join (limitNames.map line)) 0
      else say (limitText letter ++ "\n") 0
    | [word] =>
      if word = "unlimited" || (naturalOf? word.toList).isSome then return 0
      else Script.fail "bad number"
    | _ => Script.fail "too many arguments"

end Overseer.Shell.Builtin
