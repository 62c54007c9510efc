import Overseer.Shell.Builtins.Basic

/-!
# Commands about names

What a word stands for where a command begins: a keyword, an alias, a function, a command
of the shell, or a program.
-/

namespace Overseer.Shell.Builtin

/-! ## Aliases -/

def aliasLine (entry : Octets × Octets) : Octets := entry.1 ++ "=" ++ quoted entry.2 ++ "\n"

/-- Shows or sets an alias, and gives whether that could be done. -/
def setAlias (word : Octets) : Script Bool := do
  match word.toList.span (· ≠ '=') with
  | (name, _ :: meaning) => do
    let name := String.ofList name
    modify fun state =>
      { state with
        aliases := (state.aliases.filter (·.1 ≠ name)) ++ [(name, String.ofList meaning)] }
    return true
  | (_, []) => do
    match (← get).aliases.lookup word with
    | some meaning => do
      let _ ← say (aliasLine (word, meaning)) 0
      return true
    | none => do
      complain ("alias: " ++ word ++ " not found")
      return false

def aliasing : Builtin where
  name := "alias"
  run _ _ arguments := do
    if arguments.isEmpty then
      say (String.join ((← get).aliases.map aliasLine)) 0
    else do
      let done ← arguments.mapM setAlias
      return if done.all id then 0 else 1

def unalias : Builtin where
  name := "unalias"
  run _ _ arguments := do
    let (options, words) ← options [('a', false)] arguments
    if !options.isEmpty then do
      modify fun state => { state with aliases := [] }
      return 0
    else do
      let known := (← get).aliases.map (·.1)
      for word in words do
        if !known.contains word then complain ("unalias: " ++ word ++ " not found")
      modify fun state =>
        { state with aliases := state.aliases.filter fun entry => !words.contains entry.1 }
      return if words.all known.contains then 0 else 1

/-! ## What a name stands for -/

/-- The commands of the shell that a function may take the place of. -/
def regularCommands : List Octets :=
  ["[", "alias", "bg", "cd", "chdir", "command", "echo", "false", "fg", "getopts", "hash", "jobs",
   "kill", "local", "printf", "pwd", "read", "test", "true", "type", "ulimit", "umask", "unalias",
   "wait"]

/-- The path of the program that a name stands for, if there is one. -/
def programPath? (state : State) (tree : FileTree) (name : Octets) : Option Octets :=
  if name.contains '/' then
    if (tree.find state.folder name true).isOk then some name else none
  else ((tree.findProgram state.folder state.searchPath name).toOption).map (·.1)

/-- Says what a name stands for, at length or as it could be called. -/
def describe (atLength : Bool) (name : Octets) : Script (Option Octets) := do
  let state ← get
  let tree ← Work.tree
  let shown (words : Octets) : Option Octets :=
    some (if atLength then name ++ " is " ++ words ++ "\n" else name ++ "\n")
  if keywords.contains name then return shown "a shell keyword"
  else
    match state.aliases.lookup name with
    | some meaning =>
      return if atLength then some (name ++ " is an alias for " ++ meaning ++ "\n")
        else some ("alias " ++ aliasLine (name, meaning))
    | none =>
      if (state.functions.lookup name).isSome then return shown "a shell function"
      else if specialCommands.contains name || name = "local" then
        return shown "a special shell builtin"
      else if regularCommands.contains name then return shown "a shell builtin"
      else
        return (programPath? state tree name).map fun path =>
          if atLength then name ++ " is " ++ path ++ "\n" else path ++ "\n"

def describing : Builtin where
  name := "type"
  run _ _ arguments := do
    let described ← (← operands arguments).mapM fun word => do
      return (← describe true word).getD (word ++ ": not found\n")
    let known ← (← operands arguments).mapM fun word => do return (← describe true word).isSome
    say (String.join described) (if known.all id then 0 else 127)

/-- The command that carries out another one; here it only says what that is. -/
def command : Builtin where
  name := "command"
  run _ _ arguments := do
    let (options, words) ← options [('p', false), ('v', false), ('V', false)] arguments
    match (options.map (·.1)).filter (· ≠ 'p'), words with
    | [], _ | _, [] => return 0
    | letters, word :: _ => do
      let atLength := letters.getLast? = some 'V'
      match ← describe atLength word with
      | some text => say text 0
      | none => say (if atLength then word ++ ": not found\n" else "") 127

def hash : Builtin where
  name := "hash"
  run _ _ arguments := do
    let (_, words) ← options [('r', false)] arguments
    let state ← get
    let tree ← Work.tree
    let isKnown (word : Octets) : Bool :=
      specialCommands.contains word || regularCommands.contains word ||
        (state.functions.lookup word).isSome || (programPath? state tree word).isSome
    for word in words do
      if !isKnown word then Script.warn (word ++ ": not found")
    return if words.all isKnown then 0 else 1

end Overseer.Shell.Builtin
