import Overseer.Shell.Builtins.Basic

/-!
# Commands about what is carried out next

Leaving loops, functions and the shell, carrying out the lines of a text or a file, and
giving way to another program.
-/

namespace Overseer.Shell.Builtin

def succeeding (name : Octets) (isSpecial : Bool) : Builtin where
  name
  isSpecial
  run _ _ _ := return 0

def failing : Builtin where
  name := "false"
  run _ _ _ := return 1

/-- Leaves loops, or goes on with the next round of one. -/
def leaving (name : Octets) (escape : Nat → Escape) : Builtin where
  name
  isSpecial := true
  run _ _ arguments := do
    let levels ←
      match arguments with
      | [] => pure 1
      | word :: _ => do
        let levels ← number word
        if levels = 0 then Script.fail ("Illegal number: " ++ word) else pure levels
    let levels := min levels (← get).loopDepth
    if levels = 0 then return 0
    else do
      Script.setStatus 0
      throw (escape levels)

def returning : Builtin where
  name := "return"
  isSpecial := true
  run _ _ arguments := do
    match arguments with
    | [] => pure ()
    | word :: _ => do Script.setStatus (← number word)
    throw .return

def exiting : Builtin where
  name := "exit"
  isSpecial := true
  run _ _ arguments := do
    match arguments with
    | [] => do
      let state ← get
      Script.exit (state.trapStatus.getD state.status)
    | word :: _ => do Script.exit (← number word)

def evaluating : Builtin where
  name := "eval"
  isSpecial := true
  run interpreter surroundings arguments := do
    if arguments.isEmpty then return 0
    else do
      runLines interpreter surroundings.isTested (" ".intercalate arguments)
      return (← get).status

/-- The file of a script: itself a path if there is a slash in its name, or else the first
that is found in the search path. -/
def scriptPath (state : State) (tree : FileTree) (name : Octets) : Option Octets :=
  if name.contains '/' then some name
  else
    ((state.searchPath.splitOn ":").map fun place =>
      if place.isEmpty then name else place ++ "/" ++ name).find? fun path =>
        match tree.find state.folder path true with
        | .ok id => (tree.kind id matches .file _)
        | .error _ => false

/-- Carries out the lines of a file in the shell itself. -/
def sourcing : Builtin where
  name := "."
  isSpecial := true
  run interpreter _ arguments := do
    match ← operands arguments with
    | [] => return 0
    | name :: _ => do
      let state ← get
      let tree ← Work.tree
      match scriptPath state tree name with
      | none => Script.fail (name ++ ": not found")
      | some path =>
        match tree.find state.folder path true with
        | .error fault =>
          Script.fail ("cannot open " ++ path ++ ": " ++ faultText "No such file" fault)
        | .ok id => do
          let text := Octets.ofBytes ((tree.content id).toOption.getD .empty)
          modify fun state => { state with commandName := some path, line := 1 }
          let ending ← Script.attempt (runLines interpreter false text)
          modify fun after => { after with line := state.line }
          match ending with
          | .ok () | .error .return => return (← get).status
          | .error escape => throw escape

/-- Gives way to another program. Without one, the redirections of the command last. -/
def replacing : Builtin where
  name := "exec"
  isSpecial := true
  run interpreter _ arguments := do
    match arguments with
    | [] => return 0
    | name :: arguments => becomeProgram interpreter name arguments

end Overseer.Shell.Builtin
