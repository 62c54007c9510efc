import Overseer.Shell.Expansion

/-!
# Redirections

A redirection opens a file, or takes a stream that is open already, for one of the
numbers of a command. Unless it is to last, what was under the number is put aside and
comes back after the command.
-/

namespace Overseer.Shell

/-- A redirection whose words have been expanded. -/
inductive Target
  | file (descriptor : Nat) (mode : FileMode) (path : Octets)
  | copy (descriptor source : Nat)
  | close (descriptor : Nat)
  | document (descriptor : Nat) (text : Octets)

def Target.descriptor : Target → Nat
  | file descriptor .. | copy descriptor _ | close descriptor | document descriptor _ => descriptor

/-- The numbers that were redirected, and under which number what was there before is
put aside; none if nothing was there. -/
abbrev Aside := List (Nat × Option Nat)

/-- Expands the words of a redirection. -/
def expandRedirect (interpreter : Interpreter) : Redirect → Script Target
  | .file descriptor mode word => do
    return .file descriptor mode (← expandText interpreter Purpose.forText word)
  | .here descriptor document => do
    return .document descriptor (← expandText interpreter {} document)
  | .join descriptor word => do
    let text ← expandText interpreter Purpose.forText word
    match text.toList with
    | ['-'] => return .close descriptor
    | [digit] =>
      match naturalOf? [digit] with
      | some source => return .copy descriptor source
      | none => Script.fail (SyntaxCause.text .descriptor)
    | _ => Script.fail (SyntaxCause.text .descriptor)

/-! ## Opening -/

/-- The mode of a new file that is nothing but a file. -/
def State.fileMode (state : State) : Nat := 0o666 &&& (0o777 ^^^ state.mask)

/-- How a file is opened for a redirection, which may have to keep what is there. -/
def openingOf (keeps : Bool) : FileMode → Work.Opening
  | .read => .forReading
  | .readWrite => { reads := true, writes := true, makes := true }
  | .write => if keeps then { Work.Opening.forWriting with keeps } else .forWriting
  | .overwrite => .forWriting
  | .append => .forAppending

/-- The stream that a redirection is for, none if it closes one; or a message. -/
def Target.stream : Target → Script (Except Octets (Option Nat))
  | file _ mode path => do
    let state ← get
    match ← Work.openFile state.folder path (openingOf (state.has 'C') mode) state.fileMode with
    | .ok stream => return .ok (some stream)
    | .error fault =>
      if mode = .read then
        return .error ("cannot open " ++ path ++ ": " ++ faultText "No such file" fault)
      else
        return .error ("cannot create " ++ path ++ ": " ++ faultText "Directory nonexistent" fault)
  | copy _ source => do
    match (← Work.look).descriptors.lookup source with
    | some stream => return .ok (some stream)
    | none => return .error (Nat.repr source ++ ": " ++ FileFault.badDescriptor.text)
  | close _ => return .ok none
  | document _ text => return .ok (some (← Work.provide (.text text)))

/-- Puts aside what is under a number, unless that was done before. -/
def putAside (descriptor : Nat) (aside : Aside) : Work Aside := do
  if (aside.lookup descriptor).isSome then return aside
  let before := (← Work.look).descriptors
  match before.lookup descriptor with
  | none => return (descriptor, none) :: aside
  | some stream => do
    let number := Work.freeNumber before privateNumber
    Work.place number stream
    return (descriptor, some number) :: aside

/-- Puts back what was put aside. -/
def putBack : Aside → Work Unit
  | [] => return
  | (descriptor, number) :: rest => do
    let before := (← Work.look).descriptors
    let others := before.filter fun entry => entry.1 ≠ descriptor && some entry.1 ≠ number
    match number.bind fun number => before.lookup number with
    | some stream => Work.arrange ((descriptor, stream) :: others)
    | none => Work.arrange others
    putBack rest

/-- Closes what was put aside, so that the redirections last. -/
def letGo (aside : Aside) : Work Unit := do
  let numbers := aside.filterMap (·.2)
  Work.arrange ((← Work.look).descriptors.filter fun entry => !numbers.contains entry.1)

/-- Redirects one number after another. Gives what was put aside, and whether all went
well; a message was written if not. -/
def redirect : List Target → Aside → Script (Aside × Bool)
  | [], aside => return (aside, true)
  | .copy descriptor source :: rest, aside =>
    if descriptor = source then redirect rest aside
    else redirectTo (.copy descriptor source) aside (redirect rest)
  | target :: rest, aside => redirectTo target aside (redirect rest)
where
  redirectTo (target : Target) (aside : Aside) (next : Aside → Script (Aside × Bool)) :
      Script (Aside × Bool) := do
    match ← target.stream with
    | .error message => do
      Script.warn message
      return (aside, false)
    | .ok stream => do
      let aside ← putAside target.descriptor aside
      match stream with
      | some stream => Work.place target.descriptor stream
      | none => Work.close target.descriptor
      next aside

/-- Carries out a script with redirections, which end with it. The status is 2 if one of
them fails. -/
def withRedirects (interpreter : Interpreter) (redirects : List Redirect)
    (script : Script Unit) : Script Unit := do
  if redirects.isEmpty then script
  else do
    let targets ← redirects.mapM (expandRedirect interpreter)
    let (aside, isDone) ← redirect targets []
    Script.andThen (if isDone then script else Script.setStatus 2) (putBack aside : Work Unit)

end Overseer.Shell
