import Overseer.Tools.Editor.Run

/-!
# Editing

`sed` edits lines as a script says, and puts out what has become of them or changes the
files themselves.
-/

namespace Overseer.Tool

open Editor (Command RunStyle EditState ScriptStyle)

def editRules : List OptionRule :=
  [⟨'n', "quiet", .nothing⟩, ⟨'n', "silent", .nothing⟩, ⟨'e', "expression", .needed⟩,
   ⟨'f', "file", .needed⟩, ⟨'E', "regexp-extended", .nothing⟩, ⟨'r', "", .nothing⟩,
   ⟨'i', "in-place", .optional⟩, ⟨'s', "separate", .nothing⟩, ⟨'z', "null-data", .nothing⟩,
   ⟨'u', "unbuffered", .nothing⟩, ⟨'l', "line-length", .needed⟩, ⟨'\x10', "posix", .nothing⟩,
   ⟨'\x11', "debug", .nothing⟩, ⟨'\x12', "sandbox", .nothing⟩, ⟨'b', "binary", .nothing⟩,
   ⟨'\x13', "follow-symlinks", .nothing⟩]

/-- The text of the script and the files, as the arguments say. -/
def scriptOperands (invocation : Invocation) (parsed : Parsed) : Work (Octets × List Octets) := do
  let given := parsed.options.filter fun entry => entry.1 = 'e' || entry.1 = 'f'
  if given.isEmpty then
    match parsed.operands with
    | script :: files => return (script, files)
    | [] => do
      let _ ← Work.write 2 ("Usage: " ++ invocation.name ++
        " [OPTION]... \x7bscript-only-if-no-other-script\x7d [input-file]...\n")
      Work.exit 1
  else do
    let parts ← given.mapM fun (letter, text) => do
      if letter = 'e' then return text
      else
        match ← readFile invocation text with
        | .ok content => return if content.endsWith "\n" then (content.dropEnd 1).toString else content
        | .error fault => fail invocation 1 ("couldn't open file " ++ text ++ ": " ++ fault.text)
    return ("\n".intercalate parts, parsed.operands)

/-- Edits files one after another, each in its place or on its own. Gives the status. -/
def editFiles (invocation : Invocation) (style : RunStyle) (suffix : Option Octets) :
    (status : Nat) → EditState → List Octets → Work Nat
  | status, _, [] => return status
  | status, state, path :: rest => do
    match suffix with
    | some suffix => do
      let (ended, fault, state) ← Editor.editInPlace invocation style suffix path state
      let status := max status fault
      match ended with
      | some ended => return if status = 0 then ended else status
      | none => editFiles invocation style (some suffix) status state rest
    | none => do
      let start := { state with reader := Editor.readerOf style [path], number := 0, ranges := [] }
      let (ended, state) ← Editor.runCycles invocation style start
      let state ← Editor.putAdditions invocation style state
      let state ← Editor.flush invocation state
      let status := state.faultStatus.getD status
      match ended with
      | some ended => return if status = 0 then ended else status
      | none => editFiles invocation style none status state rest

def sed : Tool := fun invocation => do
  let parsed ← parse invocation editRules 1 false
  let (text, files) ← scriptOperands invocation parsed
  let extended := parsed.has 'E' || parsed.has 'r'
  match (ScriptStyle.mk extended).script text with
  | .error fault =>
    fail invocation 1 ("-e expression #1, char " ++ Nat.repr fault.place ++ ": " ++ fault.text)
  | .ok commands => do
    match Editor.missingLabel? commands with
    | some label => fail invocation 4 ("can't find label for jump to \x60" ++ label ++ "'")
    | none => pure ()
    let (outputs, _) ← openOutputs invocation .forWriting (Editor.writtenFiles commands)
    let style : RunStyle :=
      { commands := commands.toArray
        prints := !parsed.has 'n' && !text.startsWith "#n\n"
        separates := parsed.has 's' || parsed.has 'i'
        width := ((parsed.value? 'l').bind fun text => naturalOf? text.toList).getD 70
        ending := if parsed.has 'z' then "\x00" else "\n"
        outputs }
    let files := orStandard files
    let start : EditState := { reader := Editor.readerOf style files }
    if style.separates then
      editFiles invocation style (if parsed.has 'i' then some ((parsed.value? 'i').getD "") else none)
        0 start files
    else do
      let (ended, state) ← Editor.runCycles invocation style start
      let state ← Editor.putAdditions invocation style state
      let state ← Editor.flush invocation state
      return state.faultStatus.getD (ended.getD 0)

end Overseer.Tool
