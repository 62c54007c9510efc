import Overseer.Shell.Evaluation

/-!
# The shell as a program

A shell takes its lines from an argument, from a file or from what it reads. Its variables
are what the environment says, and some of its own.
-/

namespace Overseer.Shell

/-! ## The beginning -/

/-- The path of the working folder: what the environment says if that is right, or else
the one from the root. -/
def startingPath (tree : FileTree) (invocation : Invocation) : Octets :=
  match invocation.environment.lookup "PWD" with
  | some path =>
    if path.startsWith "/" && (tree.find FileTree.root path true).toOption = some invocation.folder
    then path else tree.pathOf invocation.folder
  | none => tree.pathOf invocation.folder

/-- The variables that every shell has, whatever the environment says. -/
def ownVariables (parent : ProcessId) : List (Octets × Octets) :=
  [("IFS", " \t\n"), ("OPTIND", "1"), ("PPID", Nat.repr parent), ("PS1", "# "), ("PS2", "> "),
   ("PS4", "+ ")]

def startingState (view : View) (invocation : Invocation) : State :=
  let path := startingPath view.tree invocation
  let exported := (invocation.environment.filter fun entry => isName entry.1).map
    fun (name, value) => (name, { value := some value, isExported := true : Variable })
  let state : State :=
    { name := invocation.name, folder := invocation.folder, path, mask := invocation.mask
      bindings := exported, self := view.self, deaf := view.ignored, line := 0 }
  let state := (ownVariables view.parent).foldl (fun state (name, value) =>
    state.setVariable name { value := some value }) state
  let state := state.setVariable "PWD" { value := some path, isExported := true }
  if (state.bindings.lookup "PATH").isSome then state
  else state.setVariable "PATH" { value := some standardSearchPath }

/-! ## Arguments -/

/-- Takes the options at the start of the arguments; `fuel` bounds these. Gives the rest, and
whether the lines are an argument. -/
def takeOptions : (fuel : Nat) → (isGiven : Bool) → List Octets → Script (List Octets × Bool)
  | 0, isGiven, words => return (words, isGiven)
  | _, isGiven, [] => return ([], isGiven)
  | fuel + 1, isGiven, word :: words => do
    let take (isOn : Bool) (letters : List Char) : Script (List Octets × Bool) := do
      let own := letters.filter fun c => c ≠ 'c' && c ≠ 'l'
      let words ← Builtin.setLetters isOn own words
      takeOptions fuel (isGiven || letters.contains 'c') words
    match word.toList with
    | ['-'] | ['-', '-'] => return (words, isGiven)
    | '-' :: letters => take true letters
    | '+' :: letters => take false letters
    | _ => return (word :: words, isGiven)

/-- Carries out lines with a name and arguments for them, unless these are left out. -/
def runWith (interpreter : Interpreter) (text : Octets) : List Octets → Script Unit
  | [] => do
    modify fun state => { state with line := 1 }
    runLines interpreter false text
  | name :: arguments => do
    modify fun state => { state with line := 1, name, arguments }
    runLines interpreter false text

/-- What a shell does with its arguments. -/
def main (interpreter : Interpreter) (arguments : List Octets) : Script Unit := do
  let (words, isGiven) ← takeOptions arguments.length false arguments
  if isGiven then
    match words with
    | [] => Script.fail "-c requires an argument"
    | text :: words => runWith interpreter text words
  else
    match if (← get).has 's' then [] else words with
    | [] => do
      Builtin.setOption 's' true
      modify fun state => { state with arguments := words }
      match ← Work.readAll 0 with
      | .ok text => runWith interpreter text []
      | .error _ => return
    | path :: _ => do
      let state ← get
      match (← Work.tree).find state.folder path true with
      | .error fault =>
        Script.fail ("cannot open " ++ path ++ ": " ++ faultText "No such file" fault)
      | .ok id => do
        let text := ((← Work.tree).content id).toOption.getD .empty
        runWith interpreter (Octets.ofBytes text) words

/-- The shell as a program, which may launch others. -/
def program (launch : Launch) (invocation : Invocation) : Work Nat := do
  let view ← Work.look
  let interpreter := interpreterFor launch
  runShell interpreter (main interpreter invocation.arguments) (startingState view invocation)

end Overseer.Shell
